import CanaryMining.ChannelsSv2
import CanaryMining.Lib.Early

/-!
# The state of the channel manager

What `ChannelManager` keeps behind its lock, the messages it sends, and the
single changes its handlers make.  Beside each change stand the lemmas that say
what a later look-up of a channel, a payout mode or a session sees.

## Main definitions

* `Mining`, `RouteMessageTo` — the outgoing messages.
* `DownstreamData`, `Downstream`, `ChannelManagerData`, `ManagerState`.
* `ManagerState.channel?` — the channel of a connection, by kind and id.
* `Outcome` — how a handler ends.
-/

namespace CanaryMining

variable {F : Type}

/-- `Mining`, the messages the manager sends to a connection.  A job message is
given by the job whose message it is. -/
inductive Mining (X : ChannelsSv2 F)
  | openMiningChannelError (requestId : UInt32) (errorCode : Text)
  | openStandardMiningChannelSuccess (requestId : UInt32) (channelId : ChannelId)
      (target : X.Target) (extranoncePrefix : List UInt8) (groupChannelId : ChannelId)
  | openExtendedMiningChannelSuccess (requestId : UInt32) (channelId : ChannelId)
      (target : X.Target) (extranoncePrefix : List UInt8) (extranonceSize : UInt16)
      (groupChannelId : ChannelId)
  | newMiningJob (job : X.Job .standard)
  | newExtendedMiningJob (job : X.Job .extended)
  | setNewPrevHash (channelId : ChannelId) (jobId : UInt32) (prevHash : BitVec 256)
      (minNtime nbits : UInt32)
  | setTarget (channelId : ChannelId) (maximumTarget : X.Target)
  | updateChannelError (channelId : ChannelId) (errorCode : Text)
  | closeChannel (channelId : ChannelId) (reasonCode : Text)
  | submitSharesSuccess (channelId : ChannelId) (lastSequenceNumber : UInt32)
      (newSubmitsAcceptedCount : UInt32) (newSharesSum : UInt64)
  | submitSharesError (channelId : ChannelId) (sequenceNumber : UInt32) (errorCode : Text)
  | setCustomMiningJobError (requestId : UInt32) (channelId : ChannelId) (errorCode : Text)

/-- The message that announces a job. -/
def Mining.newJob {X : ChannelsSv2 F} : (kind : MinerChannelKind) → X.Job kind → Mining X
  | .standard, job => .newMiningJob job
  | .extended, job => .newExtendedMiningJob job

/-- The job a message announces. -/
def Mining.announcedJob {X : ChannelsSv2 F} : Mining X → Option (Σ kind, X.Job kind)
  | .newMiningJob job => some ⟨.standard, job⟩
  | .newExtendedMiningJob job => some ⟨.extended, job⟩
  | _ => none

@[simp] theorem Mining.announcedJob_newJob {X : ChannelsSv2 F} (kind : MinerChannelKind)
    (job : X.Job kind) : (newJob kind job).announcedJob = some ⟨kind, job⟩ := by
  cases kind <;> rfl

/-- `SubmitSolution`. -/
structure SubmitSolution where
  templateId : UInt64
  version : UInt32
  headerTimestamp : UInt32
  headerNonce : UInt32
  coinbaseTx : List UInt8
  deriving DecidableEq, Repr

/-- `RouteMessageTo`. -/
inductive RouteMessageTo (X : ChannelsSv2 F)
  | templateProvider (solution : SubmitSolution)
  | downstream (downstreamId : DownstreamId) (message : Mining X)

/-- `DownstreamData`. -/
structure DownstreamData (X : ChannelsSv2 F) where
  extendedChannels : AssocMap ChannelId (X.Channel .extended)
  standardChannels : AssocMap ChannelId (X.Channel .standard)
  groupChannel : X.GroupChannel
  channelIdFactory : UInt32
  payoutMode : Option PayoutMode

/-- `Downstream`, a connection. -/
structure Downstream (X : ChannelsSv2 F) where
  downstreamData : DownstreamData X
  requiresStandardJobs : Bool
  requiresCustomWork : Bool

/-- `ChannelManagerData`. -/
structure ChannelManagerData (X : ChannelsSv2 F) where
  downstream : AssocMap DownstreamId (Downstream X)
  downstreamIdFactory : DownstreamId
  vardiff : AssocMap (DownstreamId × ChannelId) X.Vardiff
  coinbaseOutputs : List TxOut
  lastNewPrevHash : Option SetNewPrevHash
  lastFutureTemplate : Option NewTemplate

/-- The manager's data and the registry it reports to. -/
structure ManagerState (X : ChannelsSv2 F) where
  data : ChannelManagerData X
  minerStats : MinerStatsRegistry F

/-- The settings of `ChannelManager`. -/
structure ManagerConfig (F : Type) where
  poolTagString : Text
  shareBatchSize : ℕ
  sharesPerMinute : F
  coinbaseRewardScript : Script
  bitcoinNetwork : Option BitcoinNetwork

/-- How a handler ends: it sends messages, or asks to disconnect a connection, or
the pool shuts down and no state is left. -/
inductive Outcome (X : ChannelsSv2 F)
  | ok (state : ManagerState X) (messages : List (RouteMessageTo X))
  | disconnect (state : ManagerState X) (kind : PoolErrorKind) (downstreamId : DownstreamId)
  | shutdown (kind : PoolErrorKind)
  | panic (message : Text)

/-- The state a handler leaves. -/
def Outcome.state? {X : ChannelsSv2 F} : Outcome X → Option (ManagerState X)
  | ok s _ => some s
  | disconnect s _ _ => some s
  | shutdown _ => none
  | panic _ => none

/-- The messages a handler sends. -/
def Outcome.sent {X : ChannelsSv2 F} : Outcome X → List (RouteMessageTo X)
  | ok _ messages => messages
  | disconnect _ _ _ => []
  | shutdown _ => []
  | panic _ => []

/-- The text of a library error. -/
def ServerChannelError.text : ServerChannelError → Text
  | invalidNominalHashrate => "InvalidNominalHashrate".toList
  | requestedMinExtranonceSizeTooLarge => "RequestedMinExtranonceSizeTooLarge".toList
  | other description => description

variable {X : ChannelsSv2 F}

namespace DownstreamData

/-- The channels of a kind. -/
def channels (data : DownstreamData X) :
    (kind : MinerChannelKind) → AssocMap ChannelId (X.Channel kind)
  | .standard => data.standardChannels
  | .extended => data.extendedChannels

/-- The data with other channels of a kind. -/
def setChannels (data : DownstreamData X) :
    (kind : MinerChannelKind) → AssocMap ChannelId (X.Channel kind) → DownstreamData X
  | .standard, channels => { data with standardChannels := channels }
  | .extended, channels => { data with extendedChannels := channels }

variable (data : DownstreamData X) (kind : MinerChannelKind)
  (channels : AssocMap ChannelId (X.Channel kind))

@[simp] theorem channels_setChannels : (data.setChannels kind channels).channels kind = channels :=
  by cases kind <;> rfl

theorem channels_setChannels_ne {kind' : MinerChannelKind} (h : kind' ≠ kind) :
    (data.setChannels kind channels).channels kind' = data.channels kind' := by
  cases kind <;> cases kind' <;> first | rfl | exact absurd rfl h

@[simp] theorem payoutMode_setChannels :
    (data.setChannels kind channels).payoutMode = data.payoutMode := by cases kind <;> rfl

@[simp] theorem groupChannel_setChannels :
    (data.setChannels kind channels).groupChannel = data.groupChannel := by cases kind <;> rfl

end DownstreamData

namespace ManagerState

variable (s : ManagerState X) (d d' : DownstreamId)

/-- The record of a registered connection. -/
def downstream? : Option (Downstream X) := s.data.downstream.lookup d

/-- The channel of a connection with a kind and an id. -/
def channel? (kind : MinerChannelKind) (id : ChannelId) : Option (X.Channel kind) :=
  (s.downstream? d).bind fun downstream => (downstream.downstreamData.channels kind).lookup id

/-- The payout mode of a connection. -/
def payoutMode? : Option PayoutMode :=
  (s.downstream? d).bind fun downstream => downstream.downstreamData.payoutMode

/-! ## Changes -/

/-- A change of the data of one connection. -/
def modifyDownstream (f : DownstreamData X → DownstreamData X) : ManagerState X :=
  { s with data := { s.data with
      downstream := s.data.downstream.modify d fun downstream =>
        { downstream with downstreamData := f downstream.downstreamData } } }

/-- A channel is inserted, or replaces one of its id. -/
def insertChannel (kind : MinerChannelKind) (id : ChannelId) (c : X.Channel kind) :
    ManagerState X :=
  s.modifyDownstream d fun data => data.setChannels kind ((data.channels kind).insert id c)

/-- A channel is removed. -/
def eraseChannel (kind : MinerChannelKind) (id : ChannelId) : ManagerState X :=
  s.modifyDownstream d fun data => data.setChannels kind ((data.channels kind).erase id)

/-- The payout mode of a connection is overwritten. -/
def setPayoutMode (mode : PayoutMode) : ManagerState X :=
  s.modifyDownstream d fun data => { data with payoutMode := some mode }

/-- `channel_id_factory.fetch_add(1)`. -/
def nextChannelId : ManagerState X :=
  s.modifyDownstream d fun data => { data with channelIdFactory := data.channelIdFactory + 1 }

/-- The group channel of a connection is replaced. -/
def setGroupChannel (group : X.GroupChannel) : ManagerState X :=
  s.modifyDownstream d fun data => { data with groupChannel := group }

/-- A vardiff controller is inserted. -/
def insertVardiff (id : ChannelId) (vardiff : X.Vardiff) : ManagerState X :=
  { s with data := { s.data with vardiff := s.data.vardiff.insert (d, id) vardiff } }

/-- A vardiff controller is removed. -/
def eraseVardiff (id : ChannelId) : ManagerState X :=
  { s with data := { s.data with vardiff := s.data.vardiff.erase (d, id) } }

/-- The registry is replaced. -/
def setStats (minerStats : MinerStatsRegistry F) : ManagerState X :=
  { s with minerStats := minerStats }

/-! ## What look-ups see of them -/

variable (f : DownstreamData X → DownstreamData X) (kind kind' : MinerChannelKind)
  (id id' : ChannelId) (c : X.Channel kind) (mode : PayoutMode) (group : X.GroupChannel)
  (vardiff : X.Vardiff) (stats : MinerStatsRegistry F)

theorem downstream?_modifyDownstream : (s.modifyDownstream d f).downstream? d' =
    (s.downstream? d').map fun downstream => if d' = d then
      { downstream with downstreamData := f downstream.downstreamData } else downstream := by
  simp [downstream?, modifyDownstream]

@[simp] theorem downstream?_insertVardiff :
    (s.insertVardiff d id vardiff).downstream? d' = s.downstream? d' := rfl

@[simp] theorem downstream?_eraseVardiff :
    (s.eraseVardiff d id).downstream? d' = s.downstream? d' := rfl

@[simp] theorem downstream?_setStats : (s.setStats stats).downstream? d' = s.downstream? d' := rfl

@[simp] theorem minerStats_modifyDownstream :
    (s.modifyDownstream d f).minerStats = s.minerStats := rfl

@[simp] theorem minerStats_insertVardiff :
    (s.insertVardiff d id vardiff).minerStats = s.minerStats := rfl

@[simp] theorem minerStats_eraseVardiff : (s.eraseVardiff d id).minerStats = s.minerStats := rfl

@[simp] theorem minerStats_setStats : (s.setStats stats).minerStats = stats := rfl

theorem channel?_eq_some {c : X.Channel kind} : s.channel? d kind id = some c ↔
    ∃ downstream, s.downstream? d = some downstream ∧
      (downstream.downstreamData.channels kind).lookup id = some c := by
  simp [channel?, Option.bind_eq_some_iff]

/-- A channel belongs to a registered connection. -/
theorem isSome_downstream?_of_channel? (h : (s.channel? d kind id).isSome) :
    (s.downstream? d).isSome := by
  obtain ⟨c, hc⟩ := Option.isSome_iff_exists.1 h
  obtain ⟨downstream, hd, -⟩ := (s.channel?_eq_some d kind id).1 hc
  rw [hd]
  rfl

/-- A change of the data that keeps the channels keeps what look-ups of them see. -/
theorem channel?_modifyDownstream
    (hf : ∀ data kind, (f data).channels kind = data.channels kind) :
    (s.modifyDownstream d f).channel? d' kind' id' = s.channel? d' kind' id' := by
  simp only [channel?, downstream?_modifyDownstream]
  cases s.downstream? d' with
  | none => rfl
  | some downstream =>
    by_cases hd : d' = d
    · simp [hd, hf]
    · simp [hd]

@[simp] theorem channel?_setPayoutMode :
    (s.setPayoutMode d mode).channel? d' kind' id' = s.channel? d' kind' id' :=
  s.channel?_modifyDownstream d d' _ _ _ fun _ kind => by cases kind <;> rfl

@[simp] theorem channel?_nextChannelId :
    (s.nextChannelId d).channel? d' kind' id' = s.channel? d' kind' id' :=
  s.channel?_modifyDownstream d d' _ _ _ fun _ kind => by cases kind <;> rfl

@[simp] theorem channel?_setGroupChannel :
    (s.setGroupChannel d group).channel? d' kind' id' = s.channel? d' kind' id' :=
  s.channel?_modifyDownstream d d' _ _ _ fun _ kind => by cases kind <;> rfl

@[simp] theorem channel?_insertVardiff :
    (s.insertVardiff d id vardiff).channel? d' kind' id' = s.channel? d' kind' id' := rfl

@[simp] theorem channel?_eraseVardiff :
    (s.eraseVardiff d id).channel? d' kind' id' = s.channel? d' kind' id' := rfl

@[simp] theorem channel?_setStats :
    (s.setStats stats).channel? d' kind' id' = s.channel? d' kind' id' := rfl

theorem channel?_insertChannel (hd : (s.downstream? d).isSome) :
    (s.insertChannel d kind id c).channel? d' kind id' =
      if d' = d ∧ id' = id then some c else s.channel? d' kind id' := by
  simp only [channel?, insertChannel, downstream?_modifyDownstream]
  by_cases hd' : d' = d
  · subst hd'
    obtain ⟨downstream, hds⟩ := Option.isSome_iff_exists.1 hd
    simp [hds]
  · cases s.downstream? d' <;> simp [hd']

theorem channel?_insertChannel_ne (h : kind' ≠ kind) :
    (s.insertChannel d kind id c).channel? d' kind' id' = s.channel? d' kind' id' := by
  simp only [channel?, insertChannel, downstream?_modifyDownstream]
  cases s.downstream? d' with
  | none => rfl
  | some downstream =>
    by_cases hd : d' = d
    · simp [hd, DownstreamData.channels_setChannels_ne _ _ _ h]
    · simp [hd]

theorem channel?_eraseChannel : (s.eraseChannel d kind id).channel? d' kind' id' =
    if d' = d ∧ kind' = kind ∧ id' = id then none else s.channel? d' kind' id' := by
  simp only [channel?, eraseChannel, downstream?_modifyDownstream]
  cases s.downstream? d' with
  | none => simp
  | some downstream =>
    by_cases hd : d' = d
    · by_cases hk : kind' = kind
      · subst hk
        simp [hd]
      · simp [hd, hk, DownstreamData.channels_setChannels_ne _ _ _ hk]
    · simp [hd]

/-- Changes of the data of a connection register or remove none. -/
@[simp] theorem isSome_downstream?_modifyDownstream :
    ((s.modifyDownstream d f).downstream? d').isSome = (s.downstream? d').isSome := by
  rw [downstream?_modifyDownstream, Option.isSome_map]

/-- A change of the data that keeps the payout mode. -/
theorem payoutMode?_modifyDownstream (hf : ∀ data, (f data).payoutMode = data.payoutMode) :
    (s.modifyDownstream d f).payoutMode? d' = s.payoutMode? d' := by
  simp only [payoutMode?, downstream?_modifyDownstream]
  cases s.downstream? d' with
  | none => rfl
  | some downstream =>
    by_cases hd : d' = d
    · simp [hd, hf]
    · simp [hd]

@[simp] theorem payoutMode?_nextChannelId :
    (s.nextChannelId d).payoutMode? d' = s.payoutMode? d' :=
  payoutMode?_modifyDownstream _ _ _ _ fun _ => rfl

@[simp] theorem payoutMode?_setGroupChannel :
    (s.setGroupChannel d group).payoutMode? d' = s.payoutMode? d' :=
  payoutMode?_modifyDownstream _ _ _ _ fun _ => rfl

@[simp] theorem payoutMode?_insertChannel :
    (s.insertChannel d kind id c).payoutMode? d' = s.payoutMode? d' :=
  payoutMode?_modifyDownstream _ _ _ _ fun _ => DownstreamData.payoutMode_setChannels _ _ _

@[simp] theorem payoutMode?_eraseChannel :
    (s.eraseChannel d kind id).payoutMode? d' = s.payoutMode? d' :=
  payoutMode?_modifyDownstream _ _ _ _ fun _ => DownstreamData.payoutMode_setChannels _ _ _

@[simp] theorem payoutMode?_setStats :
    (s.setStats stats).payoutMode? d' = s.payoutMode? d' := rfl

theorem payoutMode?_setPayoutMode : (s.setPayoutMode d mode).payoutMode? d' =
    if d' = d then (s.downstream? d).map fun _ => mode else s.payoutMode? d' := by
  simp only [payoutMode?, setPayoutMode, downstream?_modifyDownstream]
  by_cases hd : d' = d
  · subst hd
    cases s.downstream? d' <;> simp
  · cases s.downstream? d' <;> simp [hd]

end ManagerState

end CanaryMining
