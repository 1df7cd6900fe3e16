import CanaryMining.Manager.State

/-!
# The mining messages of a connection

The handlers of the channel manager for what a miner sends: opening, updating
and closing a channel, submitting shares, and asking for a job of its own, which
a pool without a job declarator refuses.  What the extranonce allocator and the
vardiff library answer comes with the message.

## Main definitions

* `OpenMiningChannel`, `SetCustomMiningJob`, `MiningMessage` — the messages.
* `handleOpenStandardMiningChannel`, `handleOpenExtendedMiningChannel`,
  `handleCloseChannel`, `handleSubmitShares`, `handleUpdateChannel`,
  `handleSetCustomMiningJob`.
* `handleMiningMessage` — all of them.
-/

namespace CanaryMining

open Early

variable {F : Type} [Double F] {X : ChannelsSv2 F} {Addr : Type}

/-- `OpenStandardMiningChannel` and `OpenExtendedMiningChannel`, together with what
the allocator and the vardiff library answer while the message is handled. -/
structure OpenMiningChannel (X : ChannelsSv2 F) where
  requestId : UInt32
  userIdentity : Text
  nominalHashRate : F
  maxTarget : X.Target
  allocated : Except Text (List UInt8)
  newVardiff : Except Text X.Vardiff

/-- `SetCustomMiningJob`, what the answer repeats of it, together with whether the answer
could be forwarded. -/
structure SetCustomMiningJob where
  requestId : UInt32
  channelId : ChannelId
  forwarded : Bool
  deriving DecidableEq, Repr

/-- The messages of a connection that the manager handles. -/
inductive MiningMessage (X : ChannelsSv2 F)
  | openStandardMiningChannel (msg : OpenMiningChannel X)
  | openExtendedMiningChannel (msg : OpenMiningChannel X)
  | updateChannel (channelId : ChannelId) (nominalHashRate : F) (maximumTarget : X.Target)
  | closeChannel (channelId : ChannelId)
  | submitSharesStandard (msg : SubmitShares)
  | submitSharesExtended (msg : SubmitShares)
  | setCustomMiningJob (msg : SetCustomMiningJob)

/-- The bytes that fit into the extranonce prefix of a message. -/
def maxExtranoncePrefixBytes : ℕ := 32

/-- The bytes that fit into the coinbase transaction of `SubmitSolution`. -/
def maxCoinbaseTxBytes : ℕ := 65535

section Open

variable (cfg : ManagerConfig F) (lib : AddressLib Addr) (now : UInt64) (d : DownstreamId)
  (msg : OpenMiningChannel X) (s : ManagerState X)

/-- An open that is refused with an `OpenMiningChannelError`. -/
def refuseOpen (errorCode : String) : Outcome X :=
  .ok s [.downstream d (.openMiningChannelError msg.requestId errorCode.toList)]

/-- `StandardChannel::new_for_pool`, `ExtendedChannel::new_for_pool` with the pool's
settings. -/
def newChannel (kind : MinerChannelKind) (channelId : ChannelId) (extranoncePrefix : List UInt8) :
    Except ServerChannelError (X.Channel kind) :=
  X.newForPool kind channelId msg.userIdentity extranoncePrefix msg.maxTarget msg.nominalHashRate
    cfg.shareBatchSize cfg.sharesPerMinute .new cfg.poolTagString

/-- What a failed `new_for_pool` leads to. -/
def newChannelFailure : MinerChannelKind → ServerChannelError → Outcome X
  | _, .invalidNominalHashrate => refuseOpen d msg s "invalid-nominal-hashrate"
  | .extended, .requestedMinExtranonceSizeTooLarge =>
    refuseOpen d msg s "min-extranonce-size-too-large"
  | .standard, _ => .disconnect s .channelErrorSender d
  | .extended, error => .disconnect s (.channelSv2 error.text) d

/-- The first job of a new channel: made of the last future template, announced, and
activated by the last previous hash. -/
def firstJob {kind : MinerChannelKind} (channel : X.Channel kind) (channelId : ChannelId)
    (template : NewTemplate) (prev : SetNewPrevHash) (outputs : List TxOut) :
    Early (Outcome X) (X.Channel kind × List (Mining X)) := do
  let channel ← ofExcept (fun e => .shutdown (.channelSv2 e.text))
    (X.onNewTemplate channel template outputs)
  let jobId ← ofOption (.panic "future job id must exist".toList)
    ((X.jobStore channel).getFutureJobIdFromTemplateId template.templateId)
  let job ← ofOption (.panic "future job must exist".toList)
    ((X.jobStore channel).getFutureJob jobId)
  let activated ← ofExcept (fun e => .shutdown (.channelSv2 e.text))
    (X.onSetNewPrevHash channel prev)
  pure (activated, [.newJob kind job,
    .setNewPrevHash channelId jobId prev.prevHash prev.headerTimestamp prev.nBits])

/-- The channel is inserted and reported to the registry. -/
def registerChannel (kind : MinerChannelKind) (channelId : ChannelId) (channel : X.Channel kind) :
    ManagerState X :=
  (s.insertChannel d kind channelId channel).setStats
    (s.minerStats.recordChannelOpened now d channelId kind msg.userIdentity msg.nominalHashRate).1

/-- `group_channel.add_channel_id`, which some channels skip. -/
def addToGroup (skip : Bool) (group : X.GroupChannel) (channelId : ChannelId)
    (extranonceSize : ℕ) : Early (Outcome X) (ManagerState X) :=
  if skip then pure s
  else do
    let group ← ofExcept (fun e => .shutdown (.channelSv2 e.text))
      (X.groupAddChannelId group channelId extranonceSize)
    pure (s.setGroupChannel d group)

/-- What a new extended channel starts with: its first job, or the previous hash only
if the connection has custom work. -/
def startExtended (requiresCustomWork : Bool) (payoutMode : PayoutMode)
    (channel : X.Channel .extended) (channelId : ChannelId) (template : NewTemplate)
    (prev : SetNewPrevHash) : Early (Outcome X) (X.Channel .extended × List (Mining X)) :=
  if requiresCustomWork then do
    let activated ← ofExcept (fun e => .shutdown (.channelSv2 e.text))
      (X.onSetNewPrevHash channel prev)
    pure (activated, [])
  else
    firstJob channel channelId template prev
      (payoutMode.coinbaseOutputs template.coinbaseTxValueRemaining cfg.coinbaseRewardScript)

/-- `handle_open_standard_mining_channel`. -/
def handleOpenStandardMiningChannel : Outcome X := finish do
  let downstream ← ofOption (.disconnect s .downstreamIdNotFound d) (s.downstream? d)
  exitIf downstream.requiresCustomWork
    (refuseOpen d msg s "standard-channels-not-supported-for-custom-work")
  let template ← ofOption (.disconnect s .futureTemplateNotPresent d) s.data.lastFutureTemplate
  let prev ← ofOption (.disconnect s .lastNewPrevhashNotFound d) s.data.lastNewPrevHash
  let payoutMode ← ofExcept (fun _ => refuseOpen d msg s "invalid-user-identity")
    (PayoutMode.tryFromUserIdentity lib msg.userIdentity cfg.bitcoinNetwork)
  let outputs := payoutMode.coinbaseOutputs template.coinbaseTxValueRemaining
    cfg.coinbaseRewardScript
  -- The payout mode is overwritten before the channel is known to be valid.
  let s₁ := s.setPayoutMode d payoutMode
  let extranoncePrefix ← ofExcept (fun e => .shutdown (.channelSv2 e)) msg.allocated
  let channelId := downstream.downstreamData.channelIdFactory
  let s₂ := s₁.nextChannelId d
  let channel ← ofExcept (newChannelFailure d msg s₂ .standard)
    (newChannel cfg msg .standard channelId extranoncePrefix)
  let group := downstream.downstreamData.groupChannel
  exitIf (maxExtranoncePrefixBytes < (X.extranoncePrefix channel).length)
    (.panic "Extranonce_prefix must be valid".toList)
  let success := Mining.openStandardMiningChannelSuccess msg.requestId channelId
    (X.target channel) (X.extranoncePrefix channel) (X.groupChannelId group)
  let started ← firstJob channel channelId template prev outputs
  let s₃ := registerChannel now d msg s₂ .standard channelId started.1
  let s₄ ← addToGroup d s₃ downstream.requiresStandardJobs group channelId
    (X.extranoncePrefix channel).length
  let vardiff ← ofExcept (fun e => .shutdown (.vardiff e)) msg.newVardiff
  pure (.ok (s₄.insertVardiff d channelId vardiff)
    ((success :: started.2).map (.downstream d)))

/-- `handle_open_extended_mining_channel`.  For a connection with custom work the new
channel is told the previous hash only. -/
def handleOpenExtendedMiningChannel : Outcome X := finish do
  let downstream ← ofOption (.disconnect s .downstreamIdNotFound d) (s.downstream? d)
  let extranoncePrefix ← ofExcept (fun _ => refuseOpen d msg s "min-extranonce-size-too-large")
    msg.allocated
  let payoutMode ← ofExcept (fun _ => refuseOpen d msg s "invalid-user-identity")
    (PayoutMode.tryFromUserIdentity lib msg.userIdentity cfg.bitcoinNetwork)
  let s₁ := s.setPayoutMode d payoutMode
  let channelId := downstream.downstreamData.channelIdFactory
  let s₂ := s₁.nextChannelId d
  let channel ← ofExcept (newChannelFailure d msg s₂ .extended)
    (newChannel cfg msg .extended channelId extranoncePrefix)
  let group := downstream.downstreamData.groupChannel
  exitIf (maxExtranoncePrefixBytes < (X.extranoncePrefix channel).length)
    (.shutdown .binarySv2)
  let success := Mining.openExtendedMiningChannelSuccess msg.requestId channelId
    (X.target channel) (X.extranoncePrefix channel) (X.rollableExtranonceSize channel)
    (X.groupChannelId group)
  let prev ← ofOption (.disconnect s₂ .lastNewPrevhashNotFound d) s.data.lastNewPrevHash
  let template ← ofOption (.disconnect s₂ .futureTemplateNotPresent d) s.data.lastFutureTemplate
  let started ← startExtended cfg downstream.requiresCustomWork payoutMode channel channelId
    template prev
  -- The group is extended before the channel is inserted, under the same lock.
  let s₃ ← addToGroup d s₂ downstream.requiresCustomWork group channelId
    (X.fullExtranonceSize started.1)
  let s₄ := registerChannel now d msg s₃ .extended channelId started.1
  let vardiff ← ofExcept (fun e => .shutdown (.vardiff e)) msg.newVardiff
  pure (.ok (s₄.insertVardiff d channelId vardiff)
    ((success :: started.2).map (.downstream d)))

end Open

/-! ## Closing, shares and updates -/

section Other

variable (now : UInt64) (d : DownstreamId) (s : ManagerState X)

/-- A channel of one kind is removed, and reported if there was one. -/
def closeChannelOf (kind : MinerChannelKind) (channelId : ChannelId) : ManagerState X :=
  if (s.channel? d kind channelId).isSome then
    (s.eraseChannel d kind channelId).setStats
      (s.minerStats.recordChannelClosed now d channelId kind).1
  else s

/-- `handle_close_channel`. -/
def handleCloseChannel (channelId : ChannelId) : Outcome X := finish do
  let _ ← ofOption (.disconnect s (.downstreamNotFound d) d) (s.downstream? d)
  let s₁ := closeChannelOf now d s .standard channelId
  let s₂ := closeChannelOf now d s₁ .extended channelId
  pure (.ok (s₂.eraseVardiff d channelId) [])

/-- The error code and the reason of a rejected share; an error without one ends the
connection. -/
def rejectionReason : MinerChannelKind → ShareValidationError → Option Text
  | _, .invalid => some "invalid-share".toList
  | _, .stale => some "stale-share".toList
  | _, .invalidJobId => some "invalid-job-id".toList
  | _, .doesNotMeetTarget => some "difficulty-too-low".toList
  | _, .duplicateShare => some "duplicate-share".toList
  | .extended, .badExtranonceSize => some "bad-extranonce-size".toList
  | .standard, .badExtranonceSize => none
  | _, .other _ => none

/-- The text of a share error. -/
def ShareValidationError.text : ShareValidationError → Text
  | invalid => "Invalid".toList
  | stale => "Stale".toList
  | invalidJobId => "InvalidJobId".toList
  | doesNotMeetTarget => "DoesNotMeetTarget".toList
  | duplicateShare => "DuplicateShare".toList
  | badExtranonceSize => "BadExtranonceSize".toList
  | other description => description

/-- The `SubmitSharesSuccess` of a channel. -/
def submitSharesSuccess (channelId : ChannelId) (accounting : ShareAccounting F) :
    RouteMessageTo X :=
  .downstream d (.submitSharesSuccess channelId accounting.lastShareSequenceNumber
    accounting.lastBatchAccepted accounting.lastBatchWorkSum)

/-- The registry after `record_share_accepted` with the accounting of a channel. -/
def acceptShare (kind : MinerChannelKind) (channelId : ChannelId)
    (accounting : ShareAccounting F) (stats : MinerStatsRegistry F) : MinerStatsRegistry F :=
  (stats.recordShareAccepted now d channelId kind accounting.sharesAccepted.toUInt64
    accounting.bestDiff accounting.blocksFound.toUInt64).1

/-- The answer to a share, by the result of its validation.  `s` has the validated
channel, `seen` is the registry that has seen the share. -/
def answerShare (kind : MinerChannelKind) (msg : SubmitShares) (seen : MinerStatsRegistry F)
    (accounting : ShareAccounting F) :
    Except ShareValidationError ShareValidationResult → Early (Outcome X) (Outcome X)
  | .ok (.valid _) =>
    pure (.ok (s.setStats (acceptShare now d kind msg.channelId accounting seen))
      (if accounting.shouldAcknowledge then [submitSharesSuccess d msg.channelId accounting]
      else []))
  | .ok (.blockFound shareHash templateId coinbase) => do
    exitIf (templateId.isSome ∧ maxCoinbaseTxBytes < coinbase.length) (.shutdown .binarySv2)
    let solution := templateId.toList.map fun templateId => .templateProvider
      ⟨templateId, msg.version, msg.ntime, msg.nonce, coinbase⟩
    let stats := (acceptShare now d kind msg.channelId accounting seen).recordBlockFound now d
      msg.channelId kind shareHash accounting.blocksFound.toUInt64
    pure (.ok (s.setStats stats.1) (solution ++ [submitSharesSuccess d msg.channelId accounting]))
  | .error e => do
    let reason ← ofOption (.disconnect (s.setStats seen) (.channelSv2 e.text) d)
      (rejectionReason kind e)
    pure (.ok (s.setStats (seen.recordShareRejected now d msg.channelId kind reason).1)
      [.downstream d (.submitSharesError msg.channelId msg.sequenceNumber reason)])

/-- What `handle_submit_shares_standard` and `handle_submit_shares_extended` have in
common: all but the reasons of rejection. -/
def handleSubmitShares (kind : MinerChannelKind) (msg : SubmitShares) : Outcome X := finish do
  let channelId := msg.channelId
  let _ ← ofOption (.disconnect s (.downstreamNotFound d) d) (s.downstream? d)
  let channel ← ofOption (.ok s [.downstream d (.submitSharesError channelId msg.sequenceNumber
    "invalid-channel-id".toList)]) (s.channel? d kind channelId)
  let vardiff ← ofOption (.ok s [.downstream d (.closeChannel channelId
    "invalid-channel-id".toList)]) (s.data.vardiff.lookup (d, channelId))
  let seen := s.minerStats.recordShareSeen now d channelId kind
  let validated := X.validateShare channel msg
  let s₁ := (s.insertChannel d kind channelId validated.2).insertVardiff d channelId
    (X.incrementSharesSinceLastUpdate vardiff)
  answerShare now d s₁ kind msg seen (X.shareAccounting validated.2) validated.1

/-- `handle_submit_shares_standard`. -/
def handleSubmitSharesStandard (msg : SubmitShares) : Outcome X :=
  handleSubmitShares now d s .standard msg

/-- `handle_submit_shares_extended`.  The worker identity a message may carry is not
used. -/
def handleSubmitSharesExtended (msg : SubmitShares) : Outcome X :=
  handleSubmitShares now d s .extended msg

/-- The update of a channel of one kind. -/
def updateChannelOf (kind : MinerChannelKind) (channelId : ChannelId) (channel : X.Channel kind)
    (nominalHashRate : F) (maximumTarget : X.Target) : Outcome X :=
  let updated := X.updateChannel channel nominalHashRate (some maximumTarget)
  let s₁ := s.insertChannel d kind channelId updated.2
  let setTarget := RouteMessageTo.downstream d (.setTarget channelId (X.target updated.2))
  match updated.1 with
  | .ok () => .ok s₁ [setTarget]
  | .error .invalidNominalHashrate =>
    .ok s₁ [.downstream d (.updateChannelError channelId "invalid-nominal-hashrate".toList),
      setTarget]
  | .error _ => .panic "internal error: entered unreachable code".toList

/-- `handle_update_channel`. -/
def handleUpdateChannel (channelId : ChannelId) (nominalHashRate : F)
    (maximumTarget : X.Target) : Outcome X := finish do
  let _ ← ofOption (.disconnect s (.downstreamNotFound d) d) (s.downstream? d)
  match s.channel? d .standard channelId with
  | some channel =>
    pure (updateChannelOf d s .standard channelId channel nominalHashRate maximumTarget)
  | none =>
    match s.channel? d .extended channelId with
    | some channel =>
      pure (updateChannelOf d s .extended channelId channel nominalHashRate maximumTarget)
    | none =>
      pure (.ok s [.downstream d (.updateChannelError channelId "invalid-channel-id".toList)])

/-- `handle_set_custom_mining_job` of a pool without a job declarator.  Neither the
connection nor the channel is looked up; the handler forwards the answer itself, and a
connection that does not take it is to be disconnected. -/
def handleSetCustomMiningJob (msg : SetCustomMiningJob) : Outcome X :=
  if msg.forwarded then
    .ok s [.downstream d (.setCustomMiningJobError msg.requestId msg.channelId
      "jd-not-supported".toList)]
  else .disconnect s .channelSend d

end Other

/-- `handle_mining_message_from_client`. -/
def handleMiningMessage (cfg : ManagerConfig F) (lib : AddressLib Addr) (now : UInt64)
    (d : DownstreamId) (s : ManagerState X) : MiningMessage X → Outcome X
  | .openStandardMiningChannel msg => handleOpenStandardMiningChannel cfg lib now d msg s
  | .openExtendedMiningChannel msg => handleOpenExtendedMiningChannel cfg lib now d msg s
  | .updateChannel channelId hash target => handleUpdateChannel d s channelId hash target
  | .closeChannel channelId => handleCloseChannel now d s channelId
  | .submitSharesStandard msg => handleSubmitSharesStandard now d s msg
  | .submitSharesExtended msg => handleSubmitSharesExtended now d s msg
  | .setCustomMiningJob msg => handleSetCustomMiningJob d s msg

end CanaryMining
