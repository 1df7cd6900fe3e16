import CanaryMining.Lib.Introduced
import CanaryMining.Manager.Server
import CanaryMining.Manager.Vardiff

/-!
# The channels that messages name

What the handler of a mining message and the vardiff cycle do to the channels is an inventory
change: they keep them, open one under the next number of the connection, or close all of one
id.  Their messages name channels that the connection has; only those that open a channel name
a job.  A message of the template provider keeps the channels and opens none.

## Main definitions

* `ChannelsSv2.GroupLaws` — what the library promises of the ids of groups.
* `Topic`, `Mining.topics`, `Mining.introduced` — what a message names and introduces.
* `ManagerState.HasId`, `ManagerState.Covered` — the ids in use and their controllers.
* `Touched`, `Made` — where a channel comes from.
* `Inventory`, `Provided` — what a handler does to the channels.

**Main results:** `inventory_handleMiningMessage`, `inventory_runVardiff`,
`provided_handleNewTemplate`, `provided_handleSetNewPrevHash`.
-/

namespace CanaryMining

open Early

variable {F : Type} {X : ChannelsSv2 F} {Addr : Type}

namespace ChannelsSv2

/-- **What the library promises of groups.**  A group keeps its id, and the ids of its
channels change only where one is added. -/
structure GroupLaws (X : ChannelsSv2 F) : Prop where
  newGroupForPool : ∀ id store size tag g, X.newGroupForPool id store size tag = .ok g →
    X.groupChannelId g = id ∧ X.groupChannelIds g = []
  groupOnNewTemplate : ∀ g g' template outputs, X.groupOnNewTemplate g template outputs = .ok g' →
    X.groupChannelId g' = X.groupChannelId g ∧ X.groupChannelIds g' = X.groupChannelIds g
  groupOnSetNewPrevHash : ∀ g g' message, X.groupOnSetNewPrevHash g message = .ok g' →
    X.groupChannelId g' = X.groupChannelId g ∧ X.groupChannelIds g' = X.groupChannelIds g
  groupAddChannelId : ∀ g g' id size, X.groupAddChannelId g id size = .ok g' →
    X.groupChannelId g' = X.groupChannelId g

end ChannelsSv2

theorem tableChannels_groupLaws : tableChannels.GroupLaws where
  newGroupForPool id store size tag g h := by
    rw [← Except.ok.inj h]
    exact ⟨rfl, rfl⟩
  groupOnNewTemplate g g' template outputs h := by
    rw [← Except.ok.inj h]
    exact ⟨rfl, rfl⟩
  groupOnSetNewPrevHash g g' message h := by
    have hset : TableChannel.onSetNewPrevHash g message = .ok g' := h
    unfold TableChannel.onSetNewPrevHash at hset
    dsimp only at hset
    split at hset
    · split at hset
      · rw [← Except.ok.inj hset]
        exact ⟨rfl, rfl⟩
      · cases hset
    · rw [← Except.ok.inj hset]
      exact ⟨rfl, rfl⟩
  groupAddChannelId g g' id size h := by
    rw [← Except.ok.inj h]
    rfl

/-! ## What messages name -/

/-- What a message may name: a channel or a group by its id, or a job of one. -/
inductive Topic
  | channel (id : ChannelId)
  | job (channelId : ChannelId) (jobId : UInt32)
  deriving DecidableEq, Repr

/-- An error with such a code refuses a request and repeats its channel id, whether or not the
connection has such a channel. -/
def isRefusal (errorCode : Text) : Bool :=
  decide (errorCode = "invalid-channel-id".toList) || decide (errorCode = "jd-not-supported".toList)

/-- What an error with a channel id names. -/
def errorTopics (channelId : ChannelId) (errorCode : Text) : List Topic :=
  if isRefusal errorCode then [] else [.channel channelId]

/-- What a message names. -/
def Mining.topics : Mining X → List Topic
  | .openMiningChannelError _ _ => []
  | .openStandardMiningChannelSuccess _ _ _ _ _ => []
  | .openExtendedMiningChannelSuccess _ _ _ _ _ _ => []
  | .newMiningJob job => [.channel (ServerJob.channelId job)]
  | .newExtendedMiningJob job => [.channel (ServerJob.channelId job)]
  | .setNewPrevHash channelId jobId _ _ _ => [.channel channelId, .job channelId jobId]
  | .setTarget channelId _ => [.channel channelId]
  | .updateChannelError channelId errorCode => errorTopics channelId errorCode
  | .closeChannel channelId _ => [.channel channelId]
  | .submitSharesSuccess channelId _ _ _ => [.channel channelId]
  | .submitSharesError channelId _ errorCode => errorTopics channelId errorCode
  | .setCustomMiningJobError _ channelId errorCode => errorTopics channelId errorCode

/-- What a message introduces: a new channel and its group, or a job. -/
def Mining.introduced : Mining X → List Topic
  | .openStandardMiningChannelSuccess _ channelId _ _ groupChannelId =>
    [.channel channelId, .channel groupChannelId]
  | .openExtendedMiningChannelSuccess _ channelId _ _ _ groupChannelId =>
    [.channel channelId, .channel groupChannelId]
  | .newMiningJob job => [.job (ServerJob.channelId job) (Job.getJobId job)]
  | .newExtendedMiningJob job => [.job (ServerJob.channelId job) (Job.getJobId job)]
  | _ => []

/-- The channel a message introduces. -/
def Mining.openedId (m : Mining X) : Option ChannelId :=
  match m.introduced with
  | .channel id :: _ => some id
  | _ => none

/-- The message closes a channel. -/
def Mining.isCloseChannel : Mining X → Bool
  | .closeChannel _ _ => true
  | _ => false

theorem errorTopics_of_isRefusal {id : ChannelId} {errorCode : Text} (h : isRefusal errorCode) :
    errorTopics id errorCode = [] := if_pos h

theorem eq_channel_of_mem_errorTopics {id : ChannelId} {errorCode : Text} {topic : Topic}
    (h : topic ∈ errorTopics id errorCode) : topic = .channel id := by
  unfold errorTopics at h
  split at h
  · cases h
  · exact List.mem_singleton.1 h

theorem Mining.openedId_of_introduced {m : Mining X} (h : m.introduced = []) :
    m.openedId = none := by
  rw [openedId, h]

theorem Mining.openedId_newJob (kind : MinerChannelKind) (job : X.Job kind) :
    (newJob kind job).openedId = none ∧ (newJob kind job).isCloseChannel = false := by
  cases kind <;> exact ⟨rfl, rfl⟩

/-! ## The ids in use -/

namespace ManagerState

/-- The id of the group of a connection and the ids of its channels. -/
def groupIds? (s : ManagerState X) (d : DownstreamId) : Option (ChannelId × List ChannelId) :=
  (s.downstream? d).map fun downstream =>
    (X.groupChannelId downstream.downstreamData.groupChannel,
      X.groupChannelIds downstream.downstreamData.groupChannel)

/-- The next channel id of a connection. -/
def channelIdFactory? (s : ManagerState X) (d : DownstreamId) : Option UInt32 :=
  (s.downstream? d).map fun downstream => downstream.downstreamData.channelIdFactory

/-- A connection has a channel with an id, or its group has the id and channels. -/
def HasId (s : ManagerState X) (d : DownstreamId) (id : ChannelId) : Prop :=
  (∃ kind, (s.channel? d kind id).isSome) ∨ ∃ ids, s.groupIds? d = some (id, ids) ∧ ids ≠ []

/-- **Controllers belong to channels.**  There is a controller for an id exactly if there is a
channel with it. -/
def Covered (s : ManagerState X) : Prop :=
  ∀ d id, (s.data.vardiff.lookup (d, id)).isSome ↔ ∃ kind, (s.channel? d kind id).isSome

variable {s s' : ManagerState X} {d d' : DownstreamId}

theorem groupIds?_modifyDownstream {f : DownstreamData X → DownstreamData X}
    (hf : ∀ data, (f data).groupChannel = data.groupChannel) :
    (s.modifyDownstream d f).groupIds? d' = s.groupIds? d' := by
  rw [groupIds?, groupIds?, downstream?_modifyDownstream, Option.map_map]
  congr 1
  funext downstream
  by_cases hd : d' = d
  · simp [hd, hf]
  · simp [hd]

@[simp] theorem groupIds?_setPayoutMode (mode : PayoutMode) :
    (s.setPayoutMode d mode).groupIds? d' = s.groupIds? d' :=
  groupIds?_modifyDownstream fun _ => rfl

@[simp] theorem groupIds?_nextChannelId :
    (s.nextChannelId d).groupIds? d' = s.groupIds? d' :=
  groupIds?_modifyDownstream fun _ => rfl

@[simp] theorem groupIds?_insertChannel (kind : MinerChannelKind) (id : ChannelId)
    (c : X.Channel kind) : (s.insertChannel d kind id c).groupIds? d' = s.groupIds? d' :=
  groupIds?_modifyDownstream fun _ => DownstreamData.groupChannel_setChannels _ _ _

@[simp] theorem groupIds?_eraseChannel (kind : MinerChannelKind) (id : ChannelId) :
    (s.eraseChannel d kind id).groupIds? d' = s.groupIds? d' :=
  groupIds?_modifyDownstream fun _ => DownstreamData.groupChannel_setChannels _ _ _

@[simp] theorem groupIds?_insertVardiff (id : ChannelId) (vardiff : X.Vardiff) :
    (s.insertVardiff d id vardiff).groupIds? d' = s.groupIds? d' := rfl

@[simp] theorem groupIds?_eraseVardiff (id : ChannelId) :
    (s.eraseVardiff d id).groupIds? d' = s.groupIds? d' := rfl

@[simp] theorem groupIds?_setStats (stats : MinerStatsRegistry F) :
    (s.setStats stats).groupIds? d' = s.groupIds? d' := rfl

theorem channelIdFactory?_modifyDownstream {f : DownstreamData X → DownstreamData X}
    (hf : ∀ data, (f data).channelIdFactory = data.channelIdFactory) :
    (s.modifyDownstream d f).channelIdFactory? d' = s.channelIdFactory? d' := by
  rw [channelIdFactory?, channelIdFactory?, downstream?_modifyDownstream, Option.map_map]
  congr 1
  funext downstream
  by_cases hd : d' = d
  · simp [hd, hf]
  · simp [hd]

@[simp] theorem channelIdFactory?_setPayoutMode (mode : PayoutMode) :
    (s.setPayoutMode d mode).channelIdFactory? d' = s.channelIdFactory? d' :=
  channelIdFactory?_modifyDownstream fun _ => rfl

@[simp] theorem channelIdFactory?_setGroupChannel (group : X.GroupChannel) :
    (s.setGroupChannel d group).channelIdFactory? d' = s.channelIdFactory? d' :=
  channelIdFactory?_modifyDownstream fun _ => rfl

@[simp] theorem channelIdFactory?_insertChannel (kind : MinerChannelKind) (id : ChannelId)
    (c : X.Channel kind) :
    (s.insertChannel d kind id c).channelIdFactory? d' = s.channelIdFactory? d' :=
  channelIdFactory?_modifyDownstream fun _ => by cases kind <;> rfl

@[simp] theorem channelIdFactory?_eraseChannel (kind : MinerChannelKind) (id : ChannelId) :
    (s.eraseChannel d kind id).channelIdFactory? d' = s.channelIdFactory? d' :=
  channelIdFactory?_modifyDownstream fun _ => by cases kind <;> rfl

@[simp] theorem channelIdFactory?_insertVardiff (id : ChannelId) (vardiff : X.Vardiff) :
    (s.insertVardiff d id vardiff).channelIdFactory? d' = s.channelIdFactory? d' := rfl

@[simp] theorem channelIdFactory?_eraseVardiff (id : ChannelId) :
    (s.eraseVardiff d id).channelIdFactory? d' = s.channelIdFactory? d' := rfl

@[simp] theorem channelIdFactory?_setStats (stats : MinerStatsRegistry F) :
    (s.setStats stats).channelIdFactory? d' = s.channelIdFactory? d' := rfl

/-- A taken number is followed by the next one. -/
theorem channelIdFactory?_nextChannelId : (s.nextChannelId d).channelIdFactory? d' =
    (s.channelIdFactory? d').map fun id => if d' = d then id + 1 else id := by
  rw [channelIdFactory?, channelIdFactory?, nextChannelId, downstream?_modifyDownstream,
    Option.map_map, Option.map_map]
  congr 1
  funext downstream
  by_cases hd : d' = d
  · simp [hd]
  · simp [hd]

/-- A new group is that of its connection only. -/
theorem groupIds?_setGroupChannel (group : X.GroupChannel) (hd : (s.downstream? d).isSome) :
    (s.setGroupChannel d group).groupIds? d' =
      if d' = d then some (X.groupChannelId group, X.groupChannelIds group)
      else s.groupIds? d' := by
  rw [groupIds?, setGroupChannel, downstream?_modifyDownstream, Option.map_map]
  by_cases hd' : d' = d
  · subst hd'
    obtain ⟨downstream, hds⟩ := Option.isSome_iff_exists.1 hd
    simp [hds]
  · simp [hd', groupIds?, Function.comp_def]

end ManagerState

/-! ## Where a channel comes from -/

/-- What the manager does to a channel besides what the template provider asks for. -/
inductive Touched {kind : MinerChannelKind} (c : X.Channel kind) : X.Channel kind → Prop
  | refl : Touched c c
  | updated {c' : X.Channel kind} (hash : F) (target : Option X.Target) :
      Touched c c' → Touched c (X.updateChannel c' hash target).2
  | validated {c' : X.Channel kind} (share : SubmitShares) :
      Touched c c' → Touched c (X.validateShare c' share).2

theorem Touched.trans {kind : MinerChannelKind} {c c' c'' : X.Channel kind} (h : Touched c c')
    (h' : Touched c' c'') : Touched c c'' := by
  induction h' with
  | refl => exact h
  | updated hash target _ ih => exact ih.updated hash target
  | validated share _ ih => exact ih.validated share

/-- How a channel is made under an id, and the messages that follow the one that opens it:
its first job and the previous hash for it, or none with custom work. -/
inductive Made (id : ChannelId) : (kind : MinerChannelKind) → X.Channel kind →
    List (Mining X) → Prop
  | started {kind : MinerChannelKind} {new c : X.Channel kind} {user pre tag target hash spm}
      {batch : ℕ} {template : NewTemplate} {prev : SetNewPrevHash} {outputs : List TxOut}
      {messages : List (Mining X)} :
      X.newForPool kind id user pre target hash batch spm .new tag = .ok new →
      firstJob new id template prev outputs = .ok (c, messages) → Made id kind c messages
  | customWork {new c : X.Channel .extended} {user pre tag target hash spm} {batch : ℕ}
      {prev : SetNewPrevHash} :
      X.newForPool .extended id user pre target hash batch spm .new tag = .ok new →
      X.onSetNewPrevHash new prev = .ok c → Made id .extended c []

/-- What the first job of a channel is, and its messages. -/
theorem firstJob_eq_ok {kind : MinerChannelKind} {new c : X.Channel kind} {id : ChannelId}
    {template : NewTemplate} {prev : SetNewPrevHash} {outputs : List TxOut}
    {messages : List (Mining X)}
    (h : firstJob new id template prev outputs = .ok (c, messages)) :
    ∃ (given : X.Channel kind) (jobId : UInt32) (job : X.Job kind),
      X.onNewTemplate new template outputs = .ok given ∧
      (X.jobStore given).getFutureJobIdFromTemplateId template.templateId = some jobId ∧
      (X.jobStore given).getFutureJob jobId = some job ∧ X.onSetNewPrevHash given prev = .ok c ∧
      messages = [.newJob kind job,
        .setNewPrevHash id jobId prev.prevHash prev.headerTimestamp prev.nBits] := by
  have hsat : Sat (fun _ => True) (fun started => ∃ (given : X.Channel kind) (jobId : UInt32)
      (job : X.Job kind), X.onNewTemplate new template outputs = .ok given ∧
      (X.jobStore given).getFutureJobIdFromTemplateId template.templateId = some jobId ∧
      (X.jobStore given).getFutureJob jobId = some job ∧
      X.onSetNewPrevHash given prev = .ok started.1 ∧
      started.2 = [.newJob kind job,
        .setNewPrevHash id jobId prev.prevHash prev.headerTimestamp prev.nBits])
      (firstJob new id template prev outputs) := by
    refine sat_bind (sat_ofExcept fun _ _ => trivial) fun given hgiven => ?_
    refine sat_bind (sat_ofOption fun _ => trivial) fun jobId hjobId => ?_
    refine sat_bind (sat_ofOption fun _ => trivial) fun job hjob => ?_
    refine sat_bind (sat_ofExcept fun _ _ => trivial) fun activated hactivated => ?_
    exact sat_pure ⟨given, jobId, job, hgiven, hjobId, hjob, hactivated, rfl⟩
  exact hsat.of_eq_ok h

/-- The messages that follow open and close nothing. -/
theorem Made.openedId {id : ChannelId} {kind : MinerChannelKind} {c : X.Channel kind}
    {messages : List (Mining X)} (h : Made id kind c messages) :
    ∀ m ∈ messages, m.openedId = none ∧ m.isCloseChannel = false := by
  intro m hm
  cases h with
  | customWork _ _ => cases hm
  | started _ hstarted =>
    obtain ⟨given, jobId, job, -, -, -, -, rfl⟩ := firstJob_eq_ok hstarted
    simp only [List.mem_cons, List.not_mem_nil, or_false] at hm
    rcases hm with rfl | rfl
    · exact Mining.openedId_newJob kind job
    · exact ⟨rfl, rfl⟩

/-! ## Inventory changes -/

/-- The channels, their controllers and the groups are those that were there before. -/
structure KeepsInventory (s s' : ManagerState X) : Prop where
  vardiff : ∀ key, (s'.data.vardiff.lookup key).isSome = (s.data.vardiff.lookup key).isSome
  channel : ∀ d kind id, (s'.channel? d kind id).isSome = (s.channel? d kind id).isSome
  group : ∀ d, s'.groupIds? d = s.groupIds? d

/-- The channels are those that were there before, given nothing of the template provider. -/
structure KeepsChannels (s s' : ManagerState X) : Prop extends KeepsInventory s s' where
  touched : ∀ d kind id c', s'.channel? d kind id = some c' →
    ∃ c, s.channel? d kind id = some c ∧ Touched c c'

/-- No connection takes a number. -/
def SameNumbers (s s' : ManagerState X) : Prop :=
  ∀ d, s'.channelIdFactory? d = s.channelIdFactory? d

/-- A connection takes a number. -/
structure TakesNumber (s s' : ManagerState X) (d : DownstreamId) (id : ChannelId) : Prop where
  taken : s.channelIdFactory? d = some id
  next : ∀ d', s'.channelIdFactory? d' =
    if d' = d then some (id + 1) else s.channelIdFactory? d'

/-- A message that a connection may be sent in a state, and that introduces nothing.  It is
registered, or one of those in `sends`, whose message is answered. -/
structure FitsState (sends : DownstreamId → Prop) (s : ManagerState X) (d : DownstreamId)
    (m : Mining X) : Prop where
  registered : (s.downstream? d).isSome ∨ sends d
  topics : ∀ topic ∈ m.topics, ∃ id, topic = .channel id ∧ s.HasId d id
  introduced : m.introduced = []
  isCloseChannel : m.isCloseChannel = false

/-- All messages to connections may be sent. -/
def AllFit (sends : DownstreamId → Prop) (s : ManagerState X)
    (messages : List (RouteMessageTo X)) : Prop :=
  ∀ d m, .downstream d m ∈ messages → FitsState sends s d m

/-- A channel was opened under the next number, with a controller, and its connection is told
so first. -/
structure OpensId (s s' : ManagerState X) (messages : List (RouteMessageTo X))
    (d : DownstreamId) (id groupId : ChannelId) : Prop where
  registered : (s.downstream? d).isSome
  number : TakesNumber s s' d id
  vardiff : ∀ key, (s'.data.vardiff.lookup key).isSome =
    (decide (key = (d, id)) || (s.data.vardiff.lookup key).isSome)
  channel : ∃ kind, ∀ d' kind' id', (s'.channel? d' kind' id').isSome =
    (decide (d' = d ∧ kind' = kind ∧ id' = id) || (s.channel? d' kind' id').isSome)
  group_before : ∃ ids, s.groupIds? d = some (groupId, ids)
  group_ne : ∀ d' ≠ d, s'.groupIds? d' = s.groupIds? d'
  group : ∀ id' ids, s'.groupIds? d = some (id', ids) → id' = groupId
  messages : ∃ success started, messages = (success :: started).map (.downstream d) ∧
    success.introduced = [.channel id, .channel groupId] ∧ success.topics = [] ∧
    success.isCloseChannel = false ∧ (∃ kind c, Made id kind c started) ∧
    ∀ d' kind' id' c', s'.channel? d' kind' id' = some c' →
      (∃ c, s.channel? d' kind' id' = some c ∧ Touched c c') ∨
      d' = d ∧ id' = id ∧ Made id kind' c' started

/-- All channels with an id were closed, and their controller is gone. -/
structure ClosesId (s s' : ManagerState X) (d : DownstreamId) (id : ChannelId) : Prop where
  numbers : SameNumbers s s'
  vardiff : ∀ key, (s'.data.vardiff.lookup key).isSome =
    (decide (key ≠ (d, id)) && (s.data.vardiff.lookup key).isSome)
  channel : ∀ d' kind id', s'.channel? d' kind id' =
    if d' = d ∧ id' = id then none else s.channel? d' kind id'
  group : ∀ d, s'.groupIds? d = s.groupIds? d

/-- **What a mining message or a vardiff cycle does to the channels**, where `opens` are the
connections whose message asks to open one, and `sends` those whose message is handled. -/
inductive Inventory (opens sends : DownstreamId → Prop) (s s' : ManagerState X)
    (messages : List (RouteMessageTo X)) : Prop
  | kept : KeepsChannels s s' → SameNumbers s s' → AllFit sends s messages →
      Inventory opens sends s s' messages
  | refused {d : DownstreamId} {id : ChannelId} : opens d → KeepsChannels s s' →
      TakesNumber s s' d id → AllFit sends s messages → Inventory opens sends s s' messages
  | opened {d : DownstreamId} {id groupId : ChannelId} : opens d →
      OpensId s s' messages d id groupId → Inventory opens sends s s' messages
  | closed {d : DownstreamId} {id : ChannelId} :
      ClosesId s s' d id → messages = [] → Inventory opens sends s s' messages

/-- **What a message of the template provider does to the channels.** -/
structure Provided (s s' : ManagerState X) (messages : List (RouteMessageTo X)) : Prop
    extends KeepsInventory s s' where
  numbers : SameNumbers s s'
  sent : ∀ d m, .downstream d m ∈ messages →
    (s.downstream? d).isSome ∧ m.openedId = none ∧ m.isCloseChannel = false

/-- What a handler that leaves a state does to the channels. -/
def InventoryOf (opens sends : DownstreamId → Prop) (s : ManagerState X) (outcome : Outcome X) :
    Prop :=
  ∀ s', outcome.state? = some s' → Inventory opens sends s s' outcome.sent

/-- The connections that a message asks to open a channel for. -/
def Opens (d : DownstreamId) (message : MiningMessage X) (d' : DownstreamId) : Prop :=
  d' = d ∧ message.openRequest.isSome

section Changes

variable {opens sends : DownstreamId → Prop} {s s' s'' : ManagerState X} {d : DownstreamId}
  {id : ChannelId} {kind : MinerChannelKind}

theorem KeepsInventory.hasId (h : KeepsInventory s s') : s'.HasId d id ↔ s.HasId d id := by
  unfold ManagerState.HasId
  simp only [h.channel, h.group]

namespace KeepsChannels

theorem refl (s : ManagerState X) : KeepsChannels s s :=
  ⟨⟨fun _ => rfl, fun _ _ _ => rfl, fun _ => rfl⟩, fun _ _ _ c' hc => ⟨c', hc, .refl⟩⟩

theorem trans (h : KeepsChannels s s') (h' : KeepsChannels s' s'') : KeepsChannels s s'' where
  vardiff key := (h'.vardiff key).trans (h.vardiff key)
  channel d kind id := (h'.channel d kind id).trans (h.channel d kind id)
  group d := (h'.group d).trans (h.group d)
  touched d kind id c'' hc'' := by
    obtain ⟨c', hc', ht'⟩ := h'.touched d kind id c'' hc''
    obtain ⟨c, hc, ht⟩ := h.touched d kind id c' hc'
    exact ⟨c, hc, ht.trans ht'⟩

/-- A change that leaves all channels as they are. -/
theorem of_channel? (h : KeepsChannels s s')
    (hvardiff : ∀ key, (s''.data.vardiff.lookup key).isSome =
      (s'.data.vardiff.lookup key).isSome)
    (hchannel : ∀ d kind id, s''.channel? d kind id = s'.channel? d kind id)
    (hgroup : ∀ d, s''.groupIds? d = s'.groupIds? d) : KeepsChannels s s'' :=
  h.trans ⟨⟨hvardiff, fun d kind id => by rw [hchannel], hgroup⟩,
    fun d kind id c' hc => ⟨c', by rw [← hchannel, hc], .refl⟩⟩

theorem setPayoutMode (h : KeepsChannels s s') (mode : PayoutMode) :
    KeepsChannels s (s'.setPayoutMode d mode) :=
  h.of_channel? (fun _ => rfl) (fun _ _ _ => by simp) fun _ => by simp

theorem nextChannelId (h : KeepsChannels s s') : KeepsChannels s (s'.nextChannelId d) :=
  h.of_channel? (fun _ => rfl) (fun _ _ _ => by simp) fun _ => by simp

theorem setStats (h : KeepsChannels s s') (stats : MinerStatsRegistry F) :
    KeepsChannels s (s'.setStats stats) :=
  h.of_channel? (fun _ => rfl) (fun _ _ _ => by simp) fun _ => by simp

/-- A channel is touched. -/
theorem insertChannel (h : KeepsChannels s s') {c c' : X.Channel kind}
    (hc : s'.channel? d kind id = some c) (htouched : Touched c c') :
    KeepsChannels s (s'.insertChannel d kind id c') := by
  have hd := s'.isSome_downstream?_of_channel? d kind id (by rw [hc]; rfl)
  refine h.trans ⟨⟨fun _ => rfl, fun d' kind' id' => ?_, fun _ => by simp⟩,
    fun d' kind' id' c'' hc'' => ?_⟩
  · by_cases hkind : kind' = kind
    · subst hkind
      rw [ManagerState.channel?_insertChannel _ _ _ _ _ _ _ hd]
      split
      · rename_i hkey
        rw [hkey.1, hkey.2, hc]
        rfl
      · rfl
    · rw [ManagerState.channel?_insertChannel_ne _ _ _ _ _ _ _ _ hkind]
  · by_cases hkind : kind' = kind
    · subst hkind
      rw [ManagerState.channel?_insertChannel _ _ _ _ _ _ _ hd] at hc''
      split at hc''
      · rename_i hkey
        cases hc''
        exact ⟨c, by rw [hkey.1, hkey.2, hc], htouched⟩
      · exact ⟨c'', hc'', .refl⟩
    · rw [ManagerState.channel?_insertChannel_ne _ _ _ _ _ _ _ _ hkind] at hc''
      exact ⟨c'', hc'', .refl⟩

/-- A controller that exists is replaced. -/
theorem insertVardiff (h : KeepsChannels s s') (hv : (s'.data.vardiff.lookup (d, id)).isSome)
    (vardiff : X.Vardiff) : KeepsChannels s (s'.insertVardiff d id vardiff) := by
  refine h.of_channel? (fun key => ?_) (fun _ _ _ => by simp) fun _ => by simp
  rw [ManagerState.insertVardiff, AssocMap.lookup_insert_if]
  split
  · rename_i hkey
    rw [hkey, hv]
    rfl
  · rfl

end KeepsChannels

theorem allFit_nil : AllFit sends s [] := fun _ _ hm => absurd hm List.not_mem_nil

theorem allFit_singleton {m : Mining X} (h : FitsState sends s d m) :
    AllFit sends s [.downstream d m] := by
  intro d' m' hm
  rw [List.mem_singleton, RouteMessageTo.downstream.injEq] at hm
  rw [hm.1, hm.2]
  exact h

/-- A message that names nothing may be sent to any registered connection. -/
theorem fits_of_topics_eq_nil {m : Mining X} (hd : (s.downstream? d).isSome)
    (htopics : m.topics = []) (hintroduced : m.introduced = [])
    (hclose : m.isCloseChannel = false) : FitsState sends s d m := by
  refine ⟨.inl hd, fun topic h => ?_, hintroduced, hclose⟩
  rw [htopics] at h
  cases h

/-- A message that names a channel of its connection at most. -/
theorem fits_of_hasId {m : Mining X} (hd : (s.downstream? d).isSome) (hid : s.HasId d id)
    (htopics : ∀ topic ∈ m.topics, topic = .channel id) (hintroduced : m.introduced = [])
    (hclose : m.isCloseChannel = false) : FitsState sends s d m :=
  ⟨.inl hd, fun topic h => ⟨id, htopics topic h, hid⟩, hintroduced, hclose⟩

theorem hasId_of_channel? (hc : (s.channel? d kind id).isSome) : s.HasId d id :=
  .inl ⟨kind, hc⟩

namespace InventoryOf

theorem ok {messages : List (RouteMessageTo X)} (h : KeepsChannels s s')
    (hnumbers : SameNumbers s s') (hfit : AllFit sends s messages) :
    InventoryOf opens sends s (.ok s' messages) := by
  rintro _ ⟨⟩
  exact .kept h hnumbers hfit

theorem unchanged {messages : List (RouteMessageTo X)} (hfit : AllFit sends s messages) :
    InventoryOf opens sends s (.ok s messages) :=
  ok (.refl s) (fun _ => rfl) hfit

theorem disconnect {kind : PoolErrorKind} (h : KeepsChannels s s')
    (hnumbers : SameNumbers s s') : InventoryOf opens sends s (.disconnect s' kind d) := by
  rintro _ ⟨⟩
  exact .kept h hnumbers allFit_nil

theorem gone {kind : PoolErrorKind} : InventoryOf opens sends s (.disconnect s kind d) :=
  disconnect (.refl s) fun _ => rfl

theorem shutdown {kind : PoolErrorKind} : InventoryOf opens sends s (.shutdown kind) :=
  fun _ h => nomatch h

theorem panic {text : Text} : InventoryOf opens sends s (.panic text) := fun _ h => nomatch h

end InventoryOf

end Changes

/-! ## The handlers of mining messages -/

section Mining

variable {opens sends : DownstreamId → Prop} {s s' : ManagerState X} {d : DownstreamId}
  {id : ChannelId} {kind : MinerChannelKind} {now : UInt64}

theorem channel?_closeChannelOf (d' : DownstreamId) (kind' : MinerChannelKind)
    (id' : ChannelId) : (closeChannelOf now d s kind id).channel? d' kind' id' =
      if d' = d ∧ kind' = kind ∧ id' = id then none else s.channel? d' kind' id' := by
  unfold closeChannelOf
  split
  · rw [ManagerState.channel?_setStats, ManagerState.channel?_eraseChannel]
  · rename_i hnone
    split
    · rename_i hkey
      obtain ⟨rfl, rfl, rfl⟩ := hkey
      simpa using hnone
    · rfl

theorem groupIds?_closeChannelOf (d' : DownstreamId) :
    (closeChannelOf now d s kind id).groupIds? d' = s.groupIds? d' := by
  unfold closeChannelOf
  split
  · simp
  · rfl

theorem channelIdFactory?_closeChannelOf (d' : DownstreamId) :
    (closeChannelOf now d s kind id).channelIdFactory? d' = s.channelIdFactory? d' := by
  unfold closeChannelOf
  split
  · simp
  · rfl

theorem vardiff_closeChannelOf : (closeChannelOf now d s kind id).data.vardiff =
    s.data.vardiff := by
  unfold closeChannelOf
  split <;> rfl

theorem inventory_handleCloseChannel :
    InventoryOf opens sends s (handleCloseChannel now d s id) := by
  refine finish_of_sat (sat_bind (sat_ofOption fun _ => .gone) fun _ _ => ?_)
  refine sat_pure ?_
  rintro _ ⟨⟩
  have hcloses : ClosesId s ((closeChannelOf now d (closeChannelOf now d s .standard id)
      .extended id).eraseVardiff d id) d id := by
    refine ⟨fun d' => ?_, fun key => ?_, fun d' kind' id' => ?_, fun d' => ?_⟩
    · rw [ManagerState.channelIdFactory?_eraseVardiff, channelIdFactory?_closeChannelOf,
        channelIdFactory?_closeChannelOf]
    · rw [ManagerState.eraseVardiff, AssocMap.lookup_erase_if, vardiff_closeChannelOf,
        vardiff_closeChannelOf]
      by_cases hkey : key = (d, id)
      · simp [hkey]
      · simp [hkey]
    · rw [ManagerState.channel?_eraseVardiff, channel?_closeChannelOf, channel?_closeChannelOf]
      by_cases hd : d' = d <;> by_cases hid : id' = id <;> cases kind' <;> simp [hd, hid]
    · rw [ManagerState.groupIds?_eraseVardiff, groupIds?_closeChannelOf,
        groupIds?_closeChannelOf]
  exact .closed hcloses rfl

/-- The answer to a share of a channel. -/
theorem sat_inventory_answerShare {seen : MinerStatsRegistry F} {msg : SubmitShares}
    (hkeeps : KeepsChannels s s') (hnumbers : SameNumbers s s')
    (hc : (s.channel? d kind msg.channelId).isSome) (accounting : ShareAccounting F)
    (result : Except ShareValidationError ShareValidationResult) :
    Sat (InventoryOf opens sends s) (InventoryOf opens sends s)
      (answerShare now d s' kind msg seen accounting result) := by
  have hd := s.isSome_downstream?_of_channel? d kind _ hc
  have hid := hasId_of_channel? hc
  have hsuccess : FitsState sends s d (Mining.submitSharesSuccess (X := X) msg.channelId
      accounting.lastShareSequenceNumber accounting.lastBatchAccepted
      accounting.lastBatchWorkSum) :=
    fits_of_hasId hd hid (fun _ h => List.mem_singleton.1 h) rfl rfl
  rcases result with e | ⟨hash⟩ | ⟨hash, templateId, coinbase⟩
  · refine sat_bind (sat_ofOption fun _ => .disconnect (hkeeps.setStats _) hnumbers)
      fun reason _ => ?_
    refine sat_pure (.ok (hkeeps.setStats _) hnumbers (allFit_singleton ?_))
    exact fits_of_hasId hd hid (fun _ h => eq_channel_of_mem_errorTopics h) rfl rfl
  · refine sat_pure (.ok (hkeeps.setStats _) hnumbers ?_)
    split
    · exact allFit_singleton hsuccess
    · exact allFit_nil
  · refine sat_bind (sat_exitIf fun _ => .shutdown) fun _ _ => ?_
    refine sat_pure (.ok (hkeeps.setStats _) hnumbers fun d' m hm => ?_)
    rcases List.mem_append.1 hm with hm | hm
    · obtain ⟨_, _, heq⟩ := List.mem_map.1 hm
      cases heq
    · exact allFit_singleton hsuccess d' m hm

/-- A share of a channel is never answered with a `CloseChannel`, since the channel has its
controller. -/
theorem inventory_handleSubmitShares (hcovered : s.Covered) (msg : SubmitShares) :
    InventoryOf opens sends s (handleSubmitShares now d s kind msg) := by
  refine finish_of_sat (sat_bind (sat_ofOption fun _ => .gone) fun _ hd => ?_)
  have hd' : (s.downstream? d).isSome := by rw [hd]; rfl
  refine sat_bind (sat_ofOption fun _ => .unchanged (allFit_singleton ?_)) fun channel hc => ?_
  · exact fits_of_topics_eq_nil hd' (errorTopics_of_isRefusal rfl) rfl rfl
  have hc' : (s.channel? d kind msg.channelId).isSome := by rw [hc]; rfl
  have hvardiff := (hcovered d msg.channelId).2 ⟨kind, hc'⟩
  refine sat_bind (sat_ofOption fun hnone => ?_) fun vardiff _ => ?_
  · rw [hnone] at hvardiff
    cases hvardiff
  refine sat_inventory_answerShare ?_ (fun _ => by simp) hc' _ _
  exact ((KeepsChannels.refl s).insertChannel hc (.validated msg .refl)).insertVardiff hvardiff _

theorem inventory_updateChannelOf {channel : X.Channel kind}
    (hc : s.channel? d kind id = some channel) (hash : F) (target : X.Target) :
    InventoryOf opens sends s (updateChannelOf d s kind id channel hash target) := by
  have hc' : (s.channel? d kind id).isSome := by rw [hc]; rfl
  have hd := s.isSome_downstream?_of_channel? d kind _ hc'
  have hid := hasId_of_channel? hc'
  have hkeeps := (KeepsChannels.refl s).insertChannel hc (.updated hash (some target) .refl)
  have hset : FitsState sends s d
      (.setTarget id (X.target (X.updateChannel channel hash (some target)).2)) :=
    fits_of_hasId hd hid (fun _ h => List.mem_singleton.1 h) rfl rfl
  have hnumbers : SameNumbers s
      (s.insertChannel d kind id (X.updateChannel channel hash (some target)).2) :=
    fun _ => by simp
  simp only [updateChannelOf]
  split
  · exact .ok hkeeps hnumbers (allFit_singleton hset)
  · refine .ok hkeeps hnumbers fun d' m hm => ?_
    rcases List.mem_cons.1 hm with heq | hm
    · obtain ⟨rfl, rfl⟩ := RouteMessageTo.downstream.inj heq
      exact fits_of_hasId hd hid (fun _ h => eq_channel_of_mem_errorTopics h) rfl rfl
    · exact allFit_singleton hset d' m hm
  · exact .panic

theorem inventory_handleUpdateChannel (hash : F) (target : X.Target) :
    InventoryOf opens sends s (handleUpdateChannel d s id hash target) := by
  refine finish_of_sat (sat_bind (sat_ofOption fun _ => .gone) fun _ hd => ?_)
  have hd' : (s.downstream? d).isSome := by rw [hd]; rfl
  cases hstandard : s.channel? d .standard id with
  | some channel => exact sat_pure (inventory_updateChannelOf hstandard _ _)
  | none =>
    cases hextended : s.channel? d .extended id with
    | some channel => exact sat_pure (inventory_updateChannelOf hextended _ _)
    | none =>
      refine sat_pure (.unchanged (allFit_singleton ?_))
      exact fits_of_topics_eq_nil hd' (errorTopics_of_isRefusal rfl) rfl rfl

/-- The answer to a `SetCustomMiningJob` goes to its sender, registered or not. -/
theorem inventory_handleSetCustomMiningJob (hsends : sends d) (msg : SetCustomMiningJob) :
    InventoryOf opens sends s (handleSetCustomMiningJob d s msg) := by
  unfold handleSetCustomMiningJob
  split
  · refine .unchanged (allFit_singleton ⟨.inr hsends, fun topic h => ?_, rfl, rfl⟩)
    have hnil : errorTopics msg.channelId "jd-not-supported".toList = [] :=
      errorTopics_of_isRefusal rfl
    have hmem : topic ∈ errorTopics msg.channelId "jd-not-supported".toList := h
    rw [hnil] at hmem
    cases hmem
  · exact .gone

end Mining

/-! ## Opening a channel -/

section Opening

variable {opens sends : DownstreamId → Prop} {cfg : ManagerConfig F} {lib : AddressLib Addr}
  {s s₂ s' : ManagerState X} {d : DownstreamId} {id : ChannelId} {kind : MinerChannelKind}
  {now : UInt64}

theorem allFit_refuseOpen {msg : OpenMiningChannel X} {errorCode : String}
    (hd : (s.downstream? d).isSome) (s₂ : ManagerState X) :
    AllFit sends s (refuseOpen d msg s₂ errorCode).sent :=
  allFit_singleton (fits_of_topics_eq_nil hd rfl rfl rfl)

/-- An open that is refused before a number is taken. -/
theorem inventory_refuseOpen {msg : OpenMiningChannel X} {errorCode : String}
    (hd : (s.downstream? d).isSome) :
    InventoryOf opens sends s (refuseOpen d msg s errorCode) :=
  .unchanged (allFit_refuseOpen hd s)

/-- A connection has taken a number. -/
structure Reserved (opens : DownstreamId → Prop) (s s₂ : ManagerState X) (d : DownstreamId)
    (id : ChannelId) : Prop where
  opens : opens d
  registered : (s.downstream? d).isSome
  keeps : KeepsChannels s s₂
  number : TakesNumber s s₂ d id

/-- The connection whose message is handled has taken its number. -/
theorem reserved {downstream : Downstream X} (hopens : opens d)
    (hd : s.downstream? d = some downstream) (mode : PayoutMode) :
    Reserved opens s ((s.setPayoutMode d mode).nextChannelId d) d
      downstream.downstreamData.channelIdFactory := by
  have htaken : s.channelIdFactory? d = some downstream.downstreamData.channelIdFactory := by
    rw [ManagerState.channelIdFactory?, hd]
    rfl
  refine ⟨hopens, by rw [hd]; rfl, ((KeepsChannels.refl s).setPayoutMode mode).nextChannelId,
    htaken, fun d' => ?_⟩
  rw [ManagerState.channelIdFactory?_nextChannelId, ManagerState.channelIdFactory?_setPayoutMode]
  by_cases hd' : d' = d
  · rw [hd', htaken]
    simp
  · simp [hd']

theorem Reserved.disconnect {error : PoolErrorKind} (h : Reserved opens s s₂ d id) :
    InventoryOf opens sends s (.disconnect s₂ error d) := by
  rintro _ ⟨⟩
  exact .refused h.opens h.keeps h.number allFit_nil

theorem Reserved.refuseOpen {msg : OpenMiningChannel X} {errorCode : String}
    (h : Reserved opens s s₂ d id) : InventoryOf opens sends s (refuseOpen d msg s₂ errorCode) := by
  rintro _ ⟨⟩
  exact .refused h.opens h.keeps h.number (allFit_refuseOpen h.registered s₂)

theorem Reserved.newChannelFailure {msg : OpenMiningChannel X} (h : Reserved opens s s₂ d id)
    (kind : MinerChannelKind) (e : ServerChannelError) :
    InventoryOf opens sends s (newChannelFailure d msg s₂ kind e) := by
  unfold CanaryMining.newChannelFailure
  split
  · exact h.refuseOpen
  · exact h.refuseOpen
  · exact h.disconnect
  · exact h.disconnect

/-- What an open does with the library ends the pool or goes on. -/
theorem sat_firstJob_self {channel : X.Channel kind} (template : NewTemplate)
    (prev : SetNewPrevHash) (outputs : List TxOut) :
    Sat (InventoryOf opens sends s)
      (fun started => firstJob channel id template prev outputs = .ok started)
      (firstJob channel id template prev outputs) := by
  have hstops : Sat (InventoryOf opens sends s) (fun _ => True)
      (firstJob channel id template prev outputs) := by
    refine sat_bind (sat_ofExcept fun _ _ => .shutdown) fun channel₁ _ => ?_
    refine sat_bind (sat_ofOption fun _ => .panic) fun jobId _ => ?_
    refine sat_bind (sat_ofOption fun _ => .panic) fun job _ => ?_
    exact sat_bind (sat_ofExcept fun _ _ => .shutdown) fun channel₂ _ => sat_pure trivial
  cases hjob : firstJob channel id template prev outputs with
  | error outcome =>
    rw [hjob] at hstops
    exact hstops
  | ok started => exact rfl

/-- An extended channel is made as its connection requires. -/
theorem sat_made_startExtended {custom : Bool} {mode : PayoutMode} {msg : OpenMiningChannel X}
    {extranoncePrefix : List UInt8} {channel : X.Channel .extended}
    (hnew : newChannel cfg msg .extended id extranoncePrefix = .ok channel)
    (template : NewTemplate) (prev : SetNewPrevHash) :
    Sat (InventoryOf opens sends s) (fun started => Made id .extended started.1 started.2)
      (startExtended cfg custom mode channel id template prev) := by
  unfold startExtended
  split
  · refine sat_bind (sat_ofExcept fun _ _ => .shutdown) fun activated hactivated => ?_
    exact sat_pure (.customWork hnew hactivated)
  · exact (sat_firstJob_self template prev _).imp fun started hstarted => .started hnew hstarted

/-- The group of the connection stays, or has one more channel. -/
theorem sat_inventory_addToGroup (skip : Bool) (group : X.GroupChannel) (size : ℕ) :
    Sat (InventoryOf opens sends s) (fun s'' => s'' = s' ∨ ∃ group',
        X.groupAddChannelId group id size = .ok group' ∧ s'' = s'.setGroupChannel d group')
      (addToGroup d s' skip group id size) := by
  unfold addToGroup
  split
  · exact sat_pure (.inl rfl)
  · refine sat_bind (sat_ofExcept fun _ _ => .shutdown) fun group' hadded => ?_
    exact sat_pure (.inr ⟨group', hadded, rfl⟩)

variable [Double F] {downstream : Downstream X}

theorem isSome_channel?_registerChannel {msg : OpenMiningChannel X} {c : X.Channel kind}
    (hd : (s.downstream? d).isSome) (d' : DownstreamId) (kind' : MinerChannelKind)
    (id' : ChannelId) : ((registerChannel now d msg s kind id c).channel? d' kind' id').isSome =
      (decide (d' = d ∧ kind' = kind ∧ id' = id) || (s.channel? d' kind' id').isSome) := by
  rw [registerChannel, ManagerState.channel?_setStats]
  by_cases hkind : kind' = kind
  · subst hkind
    rw [ManagerState.channel?_insertChannel _ _ _ _ _ _ _ hd]
    by_cases hkey : d' = d ∧ id' = id <;> simp [hkey]
  · rw [ManagerState.channel?_insertChannel_ne _ _ _ _ _ _ _ _ hkind]
    simp [hkind]

/-- A channel of a connection after another was registered. -/
theorem channel?_of_registerChannel {msg : OpenMiningChannel X} {c : X.Channel kind}
    {started : List (Mining X)} (hd : (s.downstream? d).isSome) (hmade : Made id kind c started)
    {d' : DownstreamId} {kind' : MinerChannelKind} {id' : ChannelId} {c' : X.Channel kind'}
    (hc' : (registerChannel now d msg s kind id c).channel? d' kind' id' = some c') :
    s.channel? d' kind' id' = some c' ∨ d' = d ∧ id' = id ∧ Made id kind' c' started := by
  rw [registerChannel, ManagerState.channel?_setStats] at hc'
  by_cases hkind : kind' = kind
  · subst hkind
    rw [ManagerState.channel?_insertChannel _ _ _ _ _ _ _ hd] at hc'
    split at hc'
    · rename_i hkey
      cases hc'
      exact .inr ⟨hkey.1, hkey.2, hmade⟩
    · exact .inl hc'
  · rw [ManagerState.channel?_insertChannel_ne _ _ _ _ _ _ _ _ hkind] at hc'
    exact .inl hc'

@[simp] theorem groupIds?_registerChannel {msg : OpenMiningChannel X} {c : X.Channel kind}
    (d' : DownstreamId) :
    (registerChannel now d msg s kind id c).groupIds? d' = s.groupIds? d' := by
  simp [registerChannel]

@[simp] theorem channelIdFactory?_registerChannel {msg : OpenMiningChannel X}
    {c : X.Channel kind} (d' : DownstreamId) :
    (registerChannel now d msg s kind id c).channelIdFactory? d' = s.channelIdFactory? d' := by
  simp [registerChannel]

@[simp] theorem isSome_downstream?_registerChannel {msg : OpenMiningChannel X}
    {c : X.Channel kind} (d' : DownstreamId) :
    ((registerChannel now d msg s kind id c).downstream? d').isSome =
      (s.downstream? d').isSome := by
  simp [registerChannel, ManagerState.insertChannel]

/-- The group of a connection that a channel was opened for: as before, or with one more
channel. -/
def GroupExtended (d : DownstreamId) (groupId : ChannelId) (s₂ s' : ManagerState X) : Prop :=
  (∀ d', s'.groupIds? d' = s₂.groupIds? d') ∨ ∃ ids, ∀ d', s'.groupIds? d' =
    if d' = d then some (groupId, ids) else s₂.groupIds? d'

omit [Double F] in
/-- A channel is registered and its group and controller are set, in some order. -/
theorem inventory_opened (h : Reserved opens s s₂ d id) (hd : s.downstream? d = some downstream)
    {vardiff : X.Vardiff} {success : Mining X} {started : List (Mining X)}
    {groupId : ChannelId}
    (hgroupId : X.groupChannelId downstream.downstreamData.groupChannel = groupId)
    (hnumbers : SameNumbers s₂ s') (hvardiff : s'.data.vardiff = s₂.data.vardiff)
    (hchannel : ∃ kind, ∀ d' kind' id', (s'.channel? d' kind' id').isSome =
      (decide (d' = d ∧ kind' = kind ∧ id' = id) || (s₂.channel? d' kind' id').isSome))
    (hgroup : GroupExtended d groupId s₂ s')
    (hintroduced : success.introduced = [.channel id, .channel groupId])
    (htopics : success.topics = []) (hclose : success.isCloseChannel = false)
    (hmade : ∃ kind c, Made id kind c started)
    (horigin : ∀ d' kind' id' c', s'.channel? d' kind' id' = some c' →
      s₂.channel? d' kind' id' = some c' ∨ d' = d ∧ id' = id ∧ Made id kind' c' started) :
    InventoryOf opens sends s (.ok (s'.insertVardiff d id vardiff)
      ((success :: started).map (.downstream d))) := by
  have hids : s₂.groupIds? d = some (groupId,
      X.groupChannelIds downstream.downstreamData.groupChannel) := by
    rw [h.keeps.group, ManagerState.groupIds?, hd, Option.map_some, hgroupId]
  obtain ⟨kind, hchannel⟩ := hchannel
  rintro _ ⟨⟩
  refine .opened h.opens ⟨h.registered, ⟨h.number.taken, fun d' => ?_⟩, fun key => ?_,
    ⟨kind, fun d' kind' id' => ?_⟩, ⟨_, (h.keeps.group d).symm.trans hids⟩, fun d' hne => ?_,
    fun id' ids h' => ?_, success, started,
    rfl, hintroduced, htopics, hclose, hmade, fun d' kind' id' c' hc' => ?_⟩
  · rw [ManagerState.channelIdFactory?_insertVardiff, hnumbers, h.number.next]
  · rw [ManagerState.insertVardiff, AssocMap.lookup_insert_if, ← h.keeps.vardiff, hvardiff]
    by_cases hkey : key = (d, id) <;> simp [hkey]
  · rw [ManagerState.channel?_insertVardiff, hchannel, ← h.keeps.channel]
  · rw [ManagerState.groupIds?_insertVardiff, ← h.keeps.group]
    rcases hgroup with hsame | ⟨ids, hset⟩
    · rw [hsame]
    · rw [hset, if_neg hne]
  · rw [ManagerState.groupIds?_insertVardiff] at h'
    rcases hgroup with hsame | ⟨ids', hset⟩
    · rw [hsame, hids] at h'
      cases h'
      rfl
    · rw [hset, if_pos rfl] at h'
      cases h'
      rfl
  · rw [ManagerState.channel?_insertVardiff] at hc'
    exact (horigin d' kind' id' c' hc').imp_left (h.keeps.touched d' kind' id' c')

theorem inventory_handleOpenStandardMiningChannel (hG : X.GroupLaws) (hopens : opens d)
    (msg : OpenMiningChannel X) :
    InventoryOf opens sends s (handleOpenStandardMiningChannel cfg lib now d msg s) := by
  refine finish_of_sat (sat_bind (sat_ofOption fun _ => .gone) fun downstream hd => ?_)
  have hd' : (s.downstream? d).isSome := by rw [hd]; rfl
  refine sat_bind (sat_exitIf fun _ => inventory_refuseOpen hd') fun _ _ => ?_
  refine sat_bind (sat_ofOption fun _ => .gone) fun template _ => ?_
  refine sat_bind (sat_ofOption fun _ => .gone) fun prev _ => ?_
  refine sat_bind (sat_ofExcept fun _ _ => inventory_refuseOpen hd') fun mode _ => ?_
  refine sat_bind (sat_ofExcept fun _ _ => .shutdown) fun extranoncePrefix _ => ?_
  have hreserved := reserved hopens hd mode
  have hd₂ : (((s.setPayoutMode d mode).nextChannelId d).downstream? d).isSome := by
    simpa [ManagerState.setPayoutMode, ManagerState.nextChannelId] using hd'
  refine sat_bind (sat_ofExcept fun e _ => hreserved.newChannelFailure _ e)
    fun channel hnew => ?_
  refine sat_bind (sat_exitIf fun _ => .panic) fun _ _ => ?_
  refine sat_bind (sat_firstJob_self _ _ _) fun started hstarted => ?_
  have hmade := Made.started hnew hstarted
  refine sat_bind (sat_inventory_addToGroup _ _ _) fun s₄ h₄ => ?_
  refine sat_bind (sat_ofExcept fun _ _ => .shutdown) fun vardiff _ => ?_
  rcases h₄ with rfl | ⟨group', hadded, rfl⟩
  · exact sat_pure (inventory_opened hreserved hd rfl (fun _ => by simp) rfl
      ⟨.standard, isSome_channel?_registerChannel hd₂⟩ (.inl fun _ => by simp) rfl rfl rfl
      ⟨_, _, hmade⟩ fun _ _ _ _ hc' => channel?_of_registerChannel hd₂ hmade hc')
  · refine sat_pure (inventory_opened hreserved hd rfl (fun _ => by simp) rfl
      ⟨.standard, fun d' kind' id' => ?_⟩ (.inr ⟨X.groupChannelIds group', fun d' => ?_⟩) rfl rfl
      rfl ⟨_, _, hmade⟩ fun d' kind' id' c' hc' => ?_)
    · rw [ManagerState.channel?_setGroupChannel, isSome_channel?_registerChannel hd₂]
    · rw [ManagerState.groupIds?_setGroupChannel _ (by simpa using hd₂),
        groupIds?_registerChannel, hG.groupAddChannelId _ _ _ _ hadded]
    · rw [ManagerState.channel?_setGroupChannel] at hc'
      exact channel?_of_registerChannel hd₂ hmade hc'

theorem inventory_handleOpenExtendedMiningChannel (hG : X.GroupLaws) (hopens : opens d)
    (msg : OpenMiningChannel X) :
    InventoryOf opens sends s (handleOpenExtendedMiningChannel cfg lib now d msg s) := by
  refine finish_of_sat (sat_bind (sat_ofOption fun _ => .gone) fun downstream hd => ?_)
  have hd' : (s.downstream? d).isSome := by rw [hd]; rfl
  refine sat_bind (sat_ofExcept fun _ _ => inventory_refuseOpen hd') fun extranoncePrefix _ => ?_
  refine sat_bind (sat_ofExcept fun _ _ => inventory_refuseOpen hd') fun mode _ => ?_
  have hreserved := reserved hopens hd mode
  have hd₂ : (((s.setPayoutMode d mode).nextChannelId d).downstream? d).isSome := by
    simpa [ManagerState.setPayoutMode, ManagerState.nextChannelId] using hd'
  refine sat_bind (sat_ofExcept fun e _ => hreserved.newChannelFailure _ e)
    fun channel hnew => ?_
  refine sat_bind (sat_exitIf fun _ => .shutdown) fun _ _ => ?_
  refine sat_bind (sat_ofOption fun _ => hreserved.disconnect) fun prev _ => ?_
  refine sat_bind (sat_ofOption fun _ => hreserved.disconnect) fun template _ => ?_
  refine sat_bind (sat_made_startExtended hnew _ _) fun started hmade => ?_
  refine sat_bind (sat_inventory_addToGroup _ _ _) fun s₃ h₃ => ?_
  refine sat_bind (sat_ofExcept fun _ _ => .shutdown) fun vardiff _ => ?_
  rcases h₃ with rfl | ⟨group', hadded, rfl⟩
  · exact sat_pure (inventory_opened hreserved hd rfl (fun _ => by simp) rfl
      ⟨.extended, isSome_channel?_registerChannel hd₂⟩ (.inl fun _ => by simp) rfl rfl rfl
      ⟨_, _, hmade⟩ fun _ _ _ _ hc' => channel?_of_registerChannel hd₂ hmade hc')
  · have hd₃ : ((((s.setPayoutMode d mode).nextChannelId d).setGroupChannel d
        group').downstream? d).isSome := by
      simpa [ManagerState.setGroupChannel] using hd₂
    refine sat_pure (inventory_opened hreserved hd rfl (fun _ => by simp) rfl
      ⟨.extended, fun d' kind' id' => ?_⟩ (.inr ⟨X.groupChannelIds group', fun d' => ?_⟩) rfl rfl
      rfl ⟨_, _, hmade⟩ fun d' kind' id' c' hc' => ?_)
    · rw [isSome_channel?_registerChannel hd₃, ManagerState.channel?_setGroupChannel]
    · rw [groupIds?_registerChannel, ManagerState.groupIds?_setGroupChannel _ hd₂,
        hG.groupAddChannelId _ _ _ _ hadded]
    · refine (channel?_of_registerChannel hd₃ hmade hc').imp_left fun hold => ?_
      rwa [ManagerState.channel?_setGroupChannel] at hold

/-- **What a mining message does to the channels.** -/
theorem inventory_handleMiningMessage (hG : X.GroupLaws) (hcovered : s.Covered)
    (message : MiningMessage X) :
    InventoryOf (Opens d message) (· = d) s (handleMiningMessage cfg lib now d s message) := by
  cases message with
  | openStandardMiningChannel msg =>
    exact inventory_handleOpenStandardMiningChannel hG ⟨rfl, rfl⟩ msg
  | openExtendedMiningChannel msg =>
    exact inventory_handleOpenExtendedMiningChannel hG ⟨rfl, rfl⟩ msg
  | updateChannel id hash target => exact inventory_handleUpdateChannel hash target
  | closeChannel id => exact inventory_handleCloseChannel
  | submitSharesStandard msg => exact inventory_handleSubmitShares hcovered msg
  | submitSharesExtended msg => exact inventory_handleSubmitShares hcovered msg
  | setCustomMiningJob msg => exact inventory_handleSetCustomMiningJob (by rfl) msg

end Opening

/-! ## The messages of the template provider -/

section Templates

variable {cfg : ManagerConfig F} {template : NewTemplate} {message : SetNewPrevHash}
  {s : ManagerState X}

/-- A message of the template provider keeps the channels and their controllers. -/
theorem EachDownstream.keepsInventory {s' : ManagerState X}
    {change : Downstream X → Downstream X → Prop} (h : EachDownstream change s s')
    (hchange : ∀ before after, change before after →
      (∀ kind id, ((after.downstreamData.channels kind).lookup id).isSome =
        ((before.downstreamData.channels kind).lookup id).isSome) ∧
      X.groupChannelId after.downstreamData.groupChannel =
        X.groupChannelId before.downstreamData.groupChannel ∧
      X.groupChannelIds after.downstreamData.groupChannel =
        X.groupChannelIds before.downstreamData.groupChannel) : KeepsInventory s s' := by
  refine ⟨fun key => by rw [h.vardiff], fun d kind id => ?_, fun d => ?_⟩
  · cases hd : s.downstream? d with
    | none => rw [ManagerState.channel?, ManagerState.channel?, h.absent d hd, hd]
    | some before =>
      obtain ⟨after, hafter, hturn⟩ := h.present d before hd
      rw [ManagerState.channel?, ManagerState.channel?, hd, hafter, Option.bind_some,
        Option.bind_some]
      split at hturn
      · rw [hturn]
      · exact (hchange _ _ hturn).1 kind id
  · cases hd : s.downstream? d with
    | none => rw [ManagerState.groupIds?, ManagerState.groupIds?, h.absent d hd, hd]
    | some before =>
      obtain ⟨after, hafter, hturn⟩ := h.present d before hd
      rw [ManagerState.groupIds?, ManagerState.groupIds?, hd, hafter, Option.map_some,
        Option.map_some]
      split at hturn
      · rw [hturn]
      · rw [(hchange _ _ hturn).2.1, (hchange _ _ hturn).2.2]

/-- Such a message takes no number. -/
theorem EachDownstream.sameNumbers {s' : ManagerState X}
    {change : Downstream X → Downstream X → Prop} (h : EachDownstream change s s')
    (hchange : ∀ before after, change before after →
      after.downstreamData.channelIdFactory = before.downstreamData.channelIdFactory) :
    SameNumbers s s' := by
  intro d
  rw [ManagerState.channelIdFactory?, ManagerState.channelIdFactory?]
  cases hd : s.downstream? d with
  | none => rw [h.absent d hd]
  | some before =>
    obtain ⟨after, hafter, hturn⟩ := h.present d before hd
    rw [hafter, Option.map_some, Option.map_some]
    split at hturn
    · rw [hturn]
    · rw [hchange _ _ hturn]

theorem isSome_lookup_of_each {K V : Type} [DecidableEq K] {before after : AssocMap K V} {k : K}
    (hpresent : ∀ v, before.lookup k = some v → ∃ v', after.lookup k = some v')
    (habsent : before.lookup k = none → after.lookup k = none) :
    (after.lookup k).isSome = (before.lookup k).isSome := by
  cases hb : before.lookup k with
  | none => rw [habsent hb]
  | some v =>
    obtain ⟨v', ha⟩ := hpresent v hb
    rw [ha]
    rfl

/-- **A template** keeps the channels. -/
theorem provided_handleNewTemplate (hX : X.Laws) (hG : X.GroupLaws) (orders : MapOrders)
    {s' : ManagerState X} (h : (handleNewTemplate cfg template orders s).state? = some s') :
    Provided s s' (handleNewTemplate cfg template orders s).sent := by
  have heach := (newTemplateHandled hX orders s).each s' h
  have htold := templateTold orders h
  refine ⟨heach.keepsInventory ?_, heach.sameNumbers fun _ _ hgiven => hgiven.channelIdFactory,
    fun d m hm => ?_⟩
  · intro before after hgiven
    obtain ⟨groupJob, -, hgroup, -, hchannel⟩ := hgiven.channel
    refine ⟨fun kind id => isSome_lookup_of_each (fun c hc => ?_) (hgiven.absent kind id),
      hG.groupOnNewTemplate _ _ _ _ hgroup⟩
    obtain ⟨c', hc', -⟩ := hchannel kind id c hc
    exact ⟨c', hc'⟩
  · obtain ⟨before, hd, hcustom⟩ := htold.registered d m hm
    obtain ⟨after, hafter, -⟩ := heach.present d before hd
    refine ⟨by rw [hd]; rfl, ?_⟩
    rcases (htold.told d before after hd hcustom hafter).message m hm with
      ⟨job, rfl, -⟩ | ⟨-, id, c, job, rfl, -⟩
    · exact Mining.openedId_newJob .extended job
    · exact Mining.openedId_newJob .standard job

/-- **A previous hash** keeps the channels. -/
theorem provided_handleSetNewPrevHash (hG : X.GroupLaws) (orders : MapOrders)
    {s' : ManagerState X} (h : (handleSetNewPrevHash message orders s).state? = some s') :
    Provided s s' (handleSetNewPrevHash message orders s).sent := by
  have heach := (newPrevHashHandled orders s).each s' h
  have htold := prevHashTold orders h
  refine ⟨heach.keepsInventory ?_, heach.sameNumbers fun _ _ hset => hset.channelIdFactory,
    fun d m hm => ?_⟩
  · intro before after hset
    refine ⟨fun kind id => isSome_lookup_of_each (fun c hc => ?_) (hset.absent kind id),
      hG.groupOnSetNewPrevHash _ _ _ hset.group⟩
    obtain ⟨c', hc', -⟩ := hset.channel kind id c hc
    exact ⟨c', hc'⟩
  · obtain ⟨before, hd, hcustom⟩ := htold.registered d m hm
    obtain ⟨after, hafter, -⟩ := heach.present d before hd
    refine ⟨by rw [hd]; rfl, ?_⟩
    obtain ⟨id, jobId, heq, -⟩ := htold.told d before after hd hcustom hafter m hm
    rw [(RouteMessageTo.downstream.inj heq).2]
    exact ⟨rfl, rfl⟩

end Templates

/-- What a cycle makes of a channel. -/
theorem touched_runVardiffOnChannel (V : VardiffLib X) {kind : MinerChannelKind}
    (d : DownstreamId) (id : ChannelId) (c : X.Channel kind) (v : X.Vardiff) :
    Touched c (runVardiffOnChannel V d id c v).1 := by
  simp only [runVardiffOnChannel]
  split
  · exact .refl
  · exact .refl
  · split <;> exact .updated _ none .refl

theorem touched_retargetedKind {V : VardiffLib X} {kind kind' : MinerChannelKind}
    {key : DownstreamId × ChannelId} {view : ChannelView X} {c' : X.Channel kind'}
    (h : (retargetedKind V kind key view).1.channel? kind' = some c') :
    ∃ c, view.channel? kind' = some c ∧ Touched c c' := by
  by_cases hkind : kind' = kind
  · subst hkind
    unfold retargetedKind at h
    split at h
    · rename_i c v hc _
      dsimp only at h
      rw [Function.update_self, Option.some.injEq] at h
      exact ⟨c, hc, h ▸ touched_runVardiffOnChannel V key.1 key.2 c v⟩
    · exact ⟨c', h, .refl⟩
  · rw [channel?_retargetedKind_ne hkind] at h
    exact ⟨c', h, .refl⟩

/-- **A vardiff cycle** touches the channels, and announces targets where there are some. -/
theorem inventory_runVardiff (V : VardiffLib X) (order : IterOrder (DownstreamId × ChannelId))
    (s : ManagerState X) (opens sends : DownstreamId → Prop) :
    Inventory opens sends s (runVardiff V order s).1 (runVardiff V order s).2 := by
  have hsame := sameButChannels_runVardiff (V := V) order s
  have hisSome := isSome_runVardiff (V := V) order s
  refine .kept ⟨⟨fun key => (hisSome key.1 key.2).2, fun d kind id => (hisSome d id).1 kind,
    fun d => ?_⟩, fun d kind id c' hc' => ?_⟩ (fun d => ?_) fun d m hm => ?_
  · have hdown := congrArg (Option.map fun settings => settings.2.2.1) (hsame.downstream d)
    rw [Option.map_map, Option.map_map] at hdown
    have hgroup := congrArg (Option.map fun group : X.GroupChannel =>
      (X.groupChannelId group, X.groupChannelIds group)) hdown
    rw [Option.map_map, Option.map_map] at hgroup
    exact hgroup
  · have hview : ((runVardiff V order s).1.view (d, id)).channel? kind = some c' := hc'
    rw [view_runVardiff, retargeted, andThen] at hview
    obtain ⟨c₁, hc₁, h₁⟩ := touched_retargetedKind hview
    obtain ⟨c, hc, h⟩ := touched_retargetedKind hc₁
    exact ⟨c, hc, h.trans h₁⟩
  · have hdown := congrArg (Option.map fun settings => settings.2.2.2.1) (hsame.downstream d)
    rw [Option.map_map, Option.map_map] at hdown
    exact hdown
  · obtain ⟨d', id, kind, c, heq, hc⟩ := setTarget_of_mem_runVardiff hm
    obtain ⟨rfl, rfl⟩ := RouteMessageTo.downstream.inj heq
    have hc' : (s.channel? d kind id).isSome := by
      rw [← (hisSome d id).1 kind, hc]
      rfl
    exact fits_of_hasId (s.isSome_downstream?_of_channel? d kind id hc')
      (hasId_of_channel? hc') (fun _ h => List.mem_singleton.1 h) rfl rfl

end CanaryMining
