import CanaryMining.Manager.Mining
import Mathlib.Logic.Relation

/-!
# What handling a mining message can change

Every handler of a mining message makes a few of the changes listed by `Change`,
to the connection the message came from, and announces no job but the first one
of a channel it opens.  Invariants of the manager are proved change by change.

## Main definitions

* `StartedWith` — the jobs of a new channel.
* `Change` — a single change; `Changes` — any number of them.
* `Handles` — what the outcome of a handler satisfies.

**Main result:** `handles_handleMiningMessage`.
-/

namespace CanaryMining

open Early

variable {F : Type} [Double F] {X : ChannelsSv2 F} {Addr : Type}

/-- Two registries have the same open sessions. -/
def SameOpen (r r' : MinerStatsRegistry F) : Prop :=
  ∀ key, (r'.openSession key).isSome = (r.openSession key).isSome

omit [Double F] in
theorem SameOpen.trans {r r' r'' : MinerStatsRegistry F} (h : SameOpen r r')
    (h' : SameOpen r' r'') : SameOpen r r'' := fun key => (h' key).trans (h key)

/-- The kind and the request of a message that opens a channel. -/
def MiningMessage.openRequest : MiningMessage X → Option (MinerChannelKind × OpenMiningChannel X)
  | .openStandardMiningChannel msg => some (.standard, msg)
  | .openExtendedMiningChannel msg => some (.extended, msg)
  | _ => none

/-- The identity a message opens a channel with. -/
def MiningMessage.opener : MiningMessage X → Option Text
  | .openStandardMiningChannel msg => some msg.userIdentity
  | .openExtendedMiningChannel msg => some msg.userIdentity
  | _ => none

section

variable (cfg : ManagerConfig F) (lib : AddressLib Addr) (d : DownstreamId)

/-- The jobs of a channel that was opened in a state: none with custom work, else one made
of the last future template that pays `mode`, activated. -/
inductive StartedWith (s : ManagerState X) (mode : PayoutMode) {kind : MinerChannelKind}
    (c : X.Channel kind) : Prop
  | job (downstream : Downstream X) (template : NewTemplate) (prev : SetNewPrevHash)
      (job : X.Job kind) :
      s.downstream? d = some downstream → downstream.requiresCustomWork = false →
      s.data.lastFutureTemplate = some template → s.data.lastNewPrevHash = some prev →
      IsJobOf template
        (mode.coinbaseOutputs template.coinbaseTxValueRemaining cfg.coinbaseRewardScript) job →
      (BoundedJobStore.new.addTemplateJob template job).SetsNewPrevHash prev (X.jobStore c) →
      StartedWith s mode c
  | noJob (downstream : Downstream X) (prev : SetNewPrevHash) :
      s.downstream? d = some downstream → downstream.requiresCustomWork = true →
      BoundedJobStore.new.SetsNewPrevHash prev (X.jobStore c) → StartedWith s mode c

/-- The message passes every check of an open that refuses one. -/
inductive OpensChannel (s : ManagerState X) (message : MiningMessage X) : Prop
  | intro (kind : MinerChannelKind) (msg : OpenMiningChannel X) (downstream : Downstream X)
      (mode : PayoutMode) (extranoncePrefix : List UInt8) (channel : X.Channel kind) :
      message.openRequest = some (kind, msg) → s.downstream? d = some downstream →
      PayoutMode.tryFromUserIdentity lib msg.userIdentity cfg.bitcoinNetwork = .ok mode →
      msg.allocated = .ok extranoncePrefix →
      newChannel cfg msg kind downstream.downstreamData.channelIdFactory extranoncePrefix =
        .ok channel →
      OpensChannel s message

/-- A single change that handling a message of connection `d` makes; `opens` says whether
the message opens a channel. -/
inductive Change (opens : Prop) : ManagerState X → ManagerState X → Prop
  | payoutMode {s : ManagerState X} {user : Text} {mode : PayoutMode} :
      PayoutMode.tryFromUserIdentity lib user cfg.bitcoinNetwork = .ok mode →
      Change opens s (s.setPayoutMode d mode)
  | channelId {s : ManagerState X} : Change opens s (s.nextChannelId d)
  | group {s : ManagerState X} {downstream : Downstream X} {group : X.GroupChannel} :
      s.downstream? d = some downstream →
      X.groupJobStore group = X.groupJobStore downstream.downstreamData.groupChannel →
      Change opens s (s.setGroupChannel d group)
  | insertVardiff {s : ManagerState X} {id : ChannelId} {vardiff : X.Vardiff} :
      Change opens s (s.insertVardiff d id vardiff)
  | eraseVardiff {s : ManagerState X} {id : ChannelId} : Change opens s (s.eraseVardiff d id)
  | channel {s : ManagerState X} {kind : MinerChannelKind} {id : ChannelId}
      {c c' : X.Channel kind} :
      s.channel? d kind id = some c → X.userIdentity c' = X.userIdentity c →
      X.jobStore c' = X.jobStore c → Change opens s (s.insertChannel d kind id c')
  | stats {s : ManagerState X} {stats : MinerStatsRegistry F} :
      SameOpen s.minerStats stats → Change opens s (s.setStats stats)
  | opened {s : ManagerState X} {kind : MinerChannelKind} {id : ChannelId}
      {c : X.Channel kind} {mode : PayoutMode} {now : UInt64} {hash : F} :
      opens → (s.downstream? d).isSome → s.payoutMode? d = some mode →
      PayoutMode.tryFromUserIdentity lib (X.userIdentity c) cfg.bitcoinNetwork = .ok mode →
      StartedWith cfg d s mode c →
      Change opens s ((s.insertChannel d kind id c).setStats
        (s.minerStats.recordChannelOpened now d id kind (X.userIdentity c) hash).1)
  | closed {s : ManagerState X} {kind : MinerChannelKind} {id : ChannelId} {now : UInt64} :
      (s.channel? d kind id).isSome →
      Change opens s ((s.eraseChannel d kind id).setStats
        (s.minerStats.recordChannelClosed now d id kind).1)

/-- Any number of changes. -/
abbrev Changes (opens : Prop) : ManagerState X → ManagerState X → Prop :=
  Relation.ReflTransGen (Change cfg lib d opens)

/-- Any number of changes that handling a message in `s` makes. -/
abbrev ChangesOf (message : MiningMessage X) (s s' : ManagerState X) : Prop :=
  Changes cfg lib d (OpensChannel cfg lib d s message) s s'

/-- What is true of the outcome of a message from `d` handled in `s`. -/
structure Handles (s : ManagerState X) (message : MiningMessage X) (outcome : Outcome X) :
    Prop where
  changes : ∀ s', outcome.state? = some s' → ChangesOf cfg lib d message s s'
  announces : ∀ d' m kind job, .downstream d' m ∈ outcome.sent →
    Mining.announcedJob m = some ⟨kind, job⟩ →
      d' = d ∧ ∃ user mode template, message.opener = some user ∧
        PayoutMode.tryFromUserIdentity lib user cfg.bitcoinNetwork = .ok mode ∧
        IsJobOf template
          (mode.coinbaseOutputs template.coinbaseTxValueRemaining cfg.coinbaseRewardScript) job

end

variable {cfg : ManagerConfig F} {lib : AddressLib Addr} {d : DownstreamId}
  {s s' : ManagerState X} {message : MiningMessage X} {now : UInt64}

namespace Handles

/-- A handler that leaves a state and announces no job. -/
theorem ok {messages : List (RouteMessageTo X)} (h : ChangesOf cfg lib d message s s')
    (hnone : ∀ d' m, .downstream d' m ∈ messages → Mining.announcedJob m = none) :
    Handles cfg lib d s message (.ok s' messages) where
  changes _ hs := Option.some.inj hs ▸ h
  announces d' m kind job hm hjob := by
    rw [hnone d' m hm] at hjob
    cases hjob

theorem disconnect {kind : PoolErrorKind} {d' : DownstreamId}
    (h : ChangesOf cfg lib d message s s') :
    Handles cfg lib d s message (.disconnect s' kind d') where
  changes _ hs := Option.some.inj hs ▸ h
  announces _ _ _ _ hm _ := absurd hm List.not_mem_nil

theorem shutdown {kind : PoolErrorKind} : Handles cfg lib d s message (.shutdown kind) where
  changes _ hs := nomatch hs
  announces _ _ _ _ hm _ := absurd hm List.not_mem_nil

theorem panic {text : Text} : Handles cfg lib d s message (.panic text) where
  changes _ hs := nomatch hs
  announces _ _ _ _ hm _ := absurd hm List.not_mem_nil

end Handles

/-! ## The registry of a share -/

omit [Double F] in
theorem sameOpen_recordShareSeen (now : UInt64) (d : DownstreamId) (r : MinerStatsRegistry F)
    (kind : MinerChannelKind) (id : ChannelId) : SameOpen r (r.recordShareSeen now d id kind) := by
  intro key
  rw [MinerStatsRegistry.openSession_recordShareSeen, Option.isSome_map]

omit [Double F] in
theorem sameOpen_acceptShare (r : MinerStatsRegistry F) (kind : MinerChannelKind)
    (id : ChannelId) (accounting : ShareAccounting F) :
    SameOpen r (acceptShare now d kind id accounting r) := by
  intro key
  rw [acceptShare, MinerStatsRegistry.openSession_recordShareAccepted, Option.isSome_map]

omit [Double F] in
theorem sameOpen_recordShareRejected (r : MinerStatsRegistry F) (kind : MinerChannelKind)
    (id : ChannelId) (reason : Text) :
    SameOpen r (r.recordShareRejected now d id kind reason).1 := by
  intro key
  rw [MinerStatsRegistry.openSession_recordShareRejected, Option.isSome_map]

/-! ## The handlers -/

omit [Double F] in
theorem noJob_singleton {m : Mining X} (h : m.announcedJob = none) :
    ∀ d' m', RouteMessageTo.downstream d' m' ∈ [RouteMessageTo.downstream d m] →
      m'.announcedJob = none := by
  intro d' m' hm
  rw [List.mem_singleton, RouteMessageTo.downstream.injEq] at hm
  rw [hm.2, h]

/-- The answer to a share only changes the counters of its session. -/
theorem sat_answerShare {s₁ : ManagerState X} {kind : MinerChannelKind} {msg : SubmitShares}
    (accounting : ShareAccounting F)
    (hchanged : ∀ stats, SameOpen s.minerStats stats →
      ChangesOf cfg lib d message s (s₁.setStats stats))
    (result : Except ShareValidationError ShareValidationResult) :
    Sat (Handles cfg lib d s message) (Handles cfg lib d s message)
      (answerShare now d s₁ kind msg (s.minerStats.recordShareSeen now d msg.channelId kind)
        accounting result) := by
  have hseen := sameOpen_recordShareSeen now d s.minerStats kind msg.channelId
  rcases result with e | ⟨hash⟩ | ⟨hash, templateId, coinbase⟩
  · refine sat_bind (sat_ofOption fun _ => .disconnect (hchanged _ hseen)) fun reason _ => ?_
    exact sat_pure (.ok (hchanged _ (hseen.trans (sameOpen_recordShareRejected _ _ _ _)))
      (noJob_singleton rfl))
  · refine sat_pure (.ok (hchanged _ (hseen.trans (sameOpen_acceptShare _ _ _ _))) ?_)
    split
    · exact noJob_singleton rfl
    · exact fun _ _ hm => absurd hm List.not_mem_nil
  · refine sat_bind (sat_exitIf fun _ => .shutdown) fun _ _ => ?_
    refine sat_pure (.ok (hchanged _ (hseen.trans (sameOpen_acceptShare _ _ _ _))) ?_)
    intro d' m hm
    rcases List.mem_append.1 hm with hm | hm
    · obtain ⟨_, _, heq⟩ := List.mem_map.1 hm
      cases heq
    · exact noJob_singleton rfl d' m hm

theorem changes_closeChannelOf {opens : Prop} (kind : MinerChannelKind) (id : ChannelId) :
    Changes cfg lib d opens s (closeChannelOf now d s kind id) := by
  unfold closeChannelOf
  split
  · rename_i hopen
    exact .single (.closed hopen)
  · exact .refl

theorem handles_handleCloseChannel (id : ChannelId) :
    Handles cfg lib d s message (handleCloseChannel now d s id) := by
  refine finish_of_sat (sat_bind (sat_ofOption fun _ => .disconnect .refl) fun _ _ => ?_)
  refine sat_pure (.ok ?_ fun _ _ hm => absurd hm List.not_mem_nil)
  exact ((changes_closeChannelOf _ _).trans (changes_closeChannelOf _ _)).tail .eraseVardiff

theorem handles_handleSubmitShares (hX : X.Laws) (kind : MinerChannelKind) (msg : SubmitShares) :
    Handles cfg lib d s message (handleSubmitShares now d s kind msg) := by
  refine finish_of_sat (sat_bind (sat_ofOption fun _ => .disconnect .refl) fun _ _ => ?_)
  refine sat_bind (sat_ofOption fun _ => .ok .refl (noJob_singleton rfl)) fun channel hc => ?_
  refine sat_bind (sat_ofOption fun _ => .ok .refl (noJob_singleton rfl)) fun vardiff _ => ?_
  have hlaw := hX.validateShare kind channel msg
  refine sat_answerShare _ (fun stats hstats => ?_) _
  have hvalidated : ChangesOf cfg lib d message s
      (s.insertChannel d kind msg.channelId (X.validateShare channel msg).2) :=
    .single (.channel hc hlaw.1 hlaw.2)
  exact (hvalidated.tail .insertVardiff).tail (.stats hstats)

theorem handles_updateChannelOf (hX : X.Laws) {kind : MinerChannelKind} {id : ChannelId}
    {channel : X.Channel kind} (hchannel : s.channel? d kind id = some channel) (hash : F)
    (target : X.Target) :
    Handles cfg lib d s message (updateChannelOf d s kind id channel hash target) := by
  have hlaw := hX.updateChannel kind channel hash (some target)
  have hchanged : ChangesOf cfg lib d message s
      (s.insertChannel d kind id (X.updateChannel channel hash (some target)).2) :=
    .single (.channel hchannel hlaw.1 hlaw.2)
  simp only [updateChannelOf]
  split
  · exact .ok hchanged (noJob_singleton rfl)
  · refine .ok hchanged fun d' m hm => ?_
    simp only [List.mem_cons, List.not_mem_nil, or_false, RouteMessageTo.downstream.injEq] at hm
    rcases hm with ⟨-, rfl⟩ | ⟨-, rfl⟩ <;> rfl
  · exact .panic

theorem handles_handleUpdateChannel (hX : X.Laws) (id : ChannelId) (hash : F)
    (target : X.Target) :
    Handles cfg lib d s message (handleUpdateChannel d s id hash target) := by
  refine finish_of_sat (sat_bind (sat_ofOption fun _ => .disconnect .refl) fun _ _ => ?_)
  cases hstandard : s.channel? d .standard id with
  | some channel => exact sat_pure (handles_updateChannelOf hX hstandard _ _)
  | none =>
    cases hextended : s.channel? d .extended id with
    | some channel => exact sat_pure (handles_updateChannelOf hX hextended _ _)
    | none => exact sat_pure (.ok .refl (noJob_singleton rfl))

theorem handles_handleSetCustomMiningJob (msg : SetCustomMiningJob) :
    Handles cfg lib d s message (handleSetCustomMiningJob d s msg) := by
  unfold handleSetCustomMiningJob
  split
  · exact .ok .refl (noJob_singleton rfl)
  · exact .disconnect .refl

/-! ## Opening a channel -/

theorem handles_refuseOpen {msg : OpenMiningChannel X} {errorCode : String}
    (h : ChangesOf cfg lib d message s s') :
    Handles cfg lib d s message (refuseOpen d msg s' errorCode) :=
  .ok h (noJob_singleton rfl)

theorem handles_newChannelFailure {msg : OpenMiningChannel X} (h : ChangesOf cfg lib d message s s')
    (kind : MinerChannelKind) (e : ServerChannelError) :
    Handles cfg lib d s message (newChannelFailure d msg s' kind e) := by
  unfold newChannelFailure
  split
  · exact handles_refuseOpen h
  · exact handles_refuseOpen h
  · exact .disconnect h
  · exact .disconnect h

/-- The first job of a channel is made of the template, pays the outputs, and is the one
its message announces. -/
theorem sat_firstJob (hX : X.Laws) {kind : MinerChannelKind} {channel : X.Channel kind}
    (hstore : X.jobStore channel = .new) (id : ChannelId) (template : NewTemplate)
    (prev : SetNewPrevHash) (outputs : List TxOut) :
    Sat (Handles cfg lib d s message)
      (fun started => X.userIdentity started.1 = X.userIdentity channel ∧
        ∃ job, IsJobOf template outputs job ∧
          (BoundedJobStore.new.addTemplateJob template job).SetsNewPrevHash prev
            (X.jobStore started.1) ∧
          ∀ m ∈ started.2, m.announcedJob = none ∨ m.announcedJob = some ⟨kind, job⟩)
      (firstJob channel id template prev outputs) := by
  refine sat_bind (sat_ofExcept fun _ _ => .shutdown) fun channel₁ h₁ => ?_
  obtain ⟨huser, new, hnew, hadded⟩ := hX.onNewTemplate _ _ _ _ _ h₁
  rw [hstore] at hadded
  refine sat_bind (sat_ofOption fun _ => .panic) fun jobId _ => ?_
  refine sat_bind (sat_ofOption fun _ => .panic) fun job hjob => ?_
  refine sat_bind (sat_ofExcept fun _ _ => .shutdown) fun channel₂ h₂ => ?_
  obtain ⟨huser₂, hsets⟩ := hX.onSetNewPrevHash _ _ _ _ h₂
  rw [hadded] at hjob hsets
  have hsame : job = new := BoundedJobStore.eq_of_getFutureJob hjob
  refine sat_pure ⟨huser₂.trans huser, new, hnew, hsets, fun m hm => ?_⟩
  simp only [List.mem_cons, List.not_mem_nil, or_false] at hm
  rcases hm with rfl | rfl
  · right
    rw [hsame]
    cases kind <;> rfl
  · exact .inl rfl

theorem sat_addToGroup (hX : X.Laws) (skip : Bool) {downstream : Downstream X}
    {group : X.GroupChannel} (id : ChannelId) (size : ℕ) (h : ChangesOf cfg lib d message s s')
    (hd : s'.downstream? d = some downstream)
    (hgroup : downstream.downstreamData.groupChannel = group) :
    Sat (Handles cfg lib d s message)
      (fun s'' => ChangesOf cfg lib d message s s'' ∧
        (s'' = s' ∨ ∃ group, s'' = s'.setGroupChannel d group))
      (addToGroup d s' skip group id size) := by
  unfold addToGroup
  split
  · exact sat_pure ⟨h, .inl rfl⟩
  · refine sat_bind (sat_ofExcept fun _ _ => .shutdown) fun group' hadded => ?_
    have hstore := hX.groupAddChannelId _ _ _ _ hadded
    rw [← hgroup] at hstore
    exact sat_pure ⟨h.tail (.group hd hstore), .inr ⟨group', rfl⟩⟩

/-- An open that succeeds announces the first job of its channel, if it has one. -/
theorem Handles.opened {kind : MinerChannelKind} {user : Text} {mode : PayoutMode}
    {success : Mining X} {started : List (Mining X)} (h : ChangesOf cfg lib d message s s')
    (hopener : message.opener = some user)
    (hmode : PayoutMode.tryFromUserIdentity lib user cfg.bitcoinNetwork = .ok mode)
    (hsuccess : success.announcedJob = none)
    (hstarted : (∀ m ∈ started, m.announcedJob = none) ∨ ∃ (template : NewTemplate)
      (job : X.Job kind), IsJobOf template
        (mode.coinbaseOutputs template.coinbaseTxValueRemaining cfg.coinbaseRewardScript) job ∧
        ∀ m ∈ started, m.announcedJob = none ∨ m.announcedJob = some ⟨kind, job⟩) :
    Handles cfg lib d s message (.ok s' ((success :: started).map (.downstream d))) where
  changes _ hs := Option.some.inj hs ▸ h
  announces d' m kind' job' hm hjob := by
    obtain ⟨m', hm', heq⟩ := List.mem_map.1 hm
    obtain ⟨rfl, rfl⟩ := RouteMessageTo.downstream.inj heq
    refine ⟨rfl, user, mode, ?_⟩
    rcases List.mem_cons.1 hm' with rfl | hm'
    · rw [hsuccess] at hjob
      cases hjob
    · rcases hstarted with hnone | ⟨template, job, hof, hall⟩
      · rw [hnone m' hm'] at hjob
        cases hjob
      · rcases hall m' hm' with hnone | hsome
        · rw [hnone] at hjob
          cases hjob
        · rw [hsome] at hjob
          cases hjob
          exact ⟨template, hopener, hmode, hof⟩

section Opening

variable {downstream : Downstream X} {mode : PayoutMode}

omit [Double F] in
/-- The connection once its payout mode and channel id are updated. -/
theorem downstream?_reserved (mode : PayoutMode) (hd : s.downstream? d = some downstream) :
    ((s.setPayoutMode d mode).nextChannelId d).downstream? d = some { downstream with
      downstreamData := { downstream.downstreamData with
        payoutMode := some mode
        channelIdFactory := downstream.downstreamData.channelIdFactory + 1 } } := by
  simp [ManagerState.setPayoutMode, ManagerState.nextChannelId,
    ManagerState.downstream?_modifyDownstream, hd]

theorem changes_reserved {user : Text}
    (hmode : PayoutMode.tryFromUserIdentity lib user cfg.bitcoinNetwork = .ok mode) :
    ChangesOf cfg lib d message s ((s.setPayoutMode d mode).nextChannelId d) :=
  .tail (.single (.payoutMode hmode)) .channelId

omit [Double F] in
theorem downstream?_setGroupChannel (group : X.GroupChannel)
    (hd : s.downstream? d = some downstream) :
    (s.setGroupChannel d group).downstream? d = some { downstream with
      downstreamData := { downstream.downstreamData with groupChannel := group } } := by
  simp [ManagerState.setGroupChannel, ManagerState.downstream?_modifyDownstream, hd]

omit [Double F] in
theorem StartedWith.setGroupChannel {kind : MinerChannelKind} {c : X.Channel kind}
    (h : StartedWith cfg d s mode c) (group : X.GroupChannel) :
    StartedWith cfg d (s.setGroupChannel d group) mode c := by
  cases h with
  | job downstream template prev job hd hcustom htemplate hprev hof hsets =>
    have hd' := downstream?_setGroupChannel group hd
    exact .job _ template prev job hd' hcustom htemplate hprev hof hsets
  | noJob downstream prev hd hcustom hsets =>
    exact .noJob _ prev (downstream?_setGroupChannel group hd) hcustom hsets

theorem downstream?_registerChannel (now : UInt64) (msg : OpenMiningChannel X)
    {kind : MinerChannelKind} (id : ChannelId) (c : X.Channel kind)
    (hd : s.downstream? d = some downstream) :
    (registerChannel now d msg s kind id c).downstream? d = some { downstream with
      downstreamData := downstream.downstreamData.setChannels kind
        ((downstream.downstreamData.channels kind).insert id c) } := by
  simp [registerChannel, ManagerState.insertChannel, ManagerState.downstream?_modifyDownstream, hd]

/-- Registering a channel is one change, where the connection pays what its identity
says. -/
theorem changes_registerChannel {msg : OpenMiningChannel X} {kind : MinerChannelKind}
    {id : ChannelId} {c : X.Channel kind} (h : ChangesOf cfg lib d message s s')
    (hd : s'.downstream? d = some downstream)
    (hpays : downstream.downstreamData.payoutMode = some mode)
    (hmode : PayoutMode.tryFromUserIdentity lib msg.userIdentity cfg.bitcoinNetwork = .ok mode)
    (huser : X.userIdentity c = msg.userIdentity) (hstarted : StartedWith cfg d s' mode c)
    (hopens : OpensChannel cfg lib d s message) :
    ChangesOf cfg lib d message s (registerChannel now d msg s' kind id c) := by
  refine h.tail ?_
  rw [registerChannel, ← huser]
  refine .opened hopens ?_ ?_ (by rw [huser, hmode]) hstarted
  · rw [hd]
    rfl
  · simp [ManagerState.payoutMode?, hd, hpays]

theorem handles_handleOpenStandardMiningChannel (hX : X.Laws) (msg : OpenMiningChannel X) :
    Handles cfg lib d s (.openStandardMiningChannel msg)
      (handleOpenStandardMiningChannel cfg lib now d msg s) := by
  refine finish_of_sat (sat_bind (sat_ofOption fun _ => .disconnect .refl) fun downstream hd => ?_)
  refine sat_bind (sat_exitIf fun _ => handles_refuseOpen .refl) fun _ hcustom => ?_
  refine sat_bind (sat_ofOption fun _ => .disconnect .refl) fun template htemplate => ?_
  refine sat_bind (sat_ofOption fun _ => .disconnect .refl) fun prev hprev => ?_
  refine sat_bind (sat_ofExcept fun _ _ => handles_refuseOpen .refl) fun mode hmode => ?_
  refine sat_bind (sat_ofExcept fun _ _ => .shutdown) fun extranoncePrefix hprefix => ?_
  have hreserved : ChangesOf cfg lib d (.openStandardMiningChannel msg) s _ :=
    changes_reserved hmode
  refine sat_bind (sat_ofExcept fun e _ => handles_newChannelFailure hreserved _ e)
    fun channel hnew => ?_
  obtain ⟨huser, hstore⟩ := hX.newForPool _ _ _ _ _ _ _ _ _ _ _ hnew
  have hopens : OpensChannel cfg lib d s (.openStandardMiningChannel msg) :=
    .intro .standard msg downstream mode extranoncePrefix channel rfl hd hmode hprefix hnew
  refine sat_bind (sat_exitIf fun _ => .panic) fun _ _ => ?_
  refine sat_bind (sat_firstJob hX hstore _ _ _ _) fun started hstarted => ?_
  obtain ⟨huser', job, hof, hsets, hannounced⟩ := hstarted
  have hd₂ := downstream?_reserved mode hd
  have hregistered : ChangesOf cfg lib d (.openStandardMiningChannel msg) s
      (registerChannel now d msg ((s.setPayoutMode d mode).nextChannelId d) .standard
      downstream.downstreamData.channelIdFactory started.1) :=
    changes_registerChannel hreserved hd₂ rfl hmode (huser'.trans huser)
      (.job _ template prev job hd₂ (by simpa using hcustom) htemplate hprev hof hsets) hopens
  have hd₃ := downstream?_registerChannel now msg downstream.downstreamData.channelIdFactory
    started.1 hd₂
  refine sat_bind (sat_addToGroup hX _ _ _ hregistered hd₃ rfl) fun s₄ h₄ => ?_
  refine sat_bind (sat_ofExcept fun _ _ => .shutdown) fun vardiff _ => ?_
  exact sat_pure (.opened (h₄.1.tail .insertVardiff) rfl hmode rfl
    (.inr ⟨template, job, hof, hannounced⟩))

/-- A new extended channel starts with a job of the template or, with custom work, none. -/
theorem sat_startExtended (hX : X.Laws) {channel : X.Channel .extended}
    (hstore : X.jobStore channel = .new) (hd : s'.downstream? d = some downstream)
    (id : ChannelId) {template : NewTemplate} {prev : SetNewPrevHash}
    (htemplate : s'.data.lastFutureTemplate = some template)
    (hprev : s'.data.lastNewPrevHash = some prev) :
    Sat (Handles cfg lib d s message)
      (fun started => X.userIdentity started.1 = X.userIdentity channel ∧
        StartedWith cfg d s' mode started.1 ∧
        ((∀ m ∈ started.2, m.announcedJob = none) ∨ ∃ (template : NewTemplate)
          (job : X.Job .extended), IsJobOf template
            (mode.coinbaseOutputs template.coinbaseTxValueRemaining cfg.coinbaseRewardScript) job ∧
            ∀ m ∈ started.2, m.announcedJob = none ∨ m.announcedJob = some ⟨.extended, job⟩))
      (startExtended cfg downstream.requiresCustomWork mode channel id template prev) := by
  unfold startExtended
  split
  · rename_i hcustom
    refine sat_bind (sat_ofExcept fun _ _ => .shutdown) fun activated hactivated => ?_
    obtain ⟨huser, hsets⟩ := hX.onSetNewPrevHash _ _ _ _ hactivated
    rw [hstore] at hsets
    exact sat_pure ⟨huser, .noJob downstream prev hd hcustom hsets,
      .inl fun _ hm => absurd hm List.not_mem_nil⟩
  · rename_i hcustom
    refine (sat_firstJob hX hstore id template prev (mode.coinbaseOutputs
      template.coinbaseTxValueRemaining cfg.coinbaseRewardScript)).imp ?_
    rintro started ⟨huser, job, hof, hsets, hannounced⟩
    refine ⟨huser, ?_, .inr ⟨template, job, hof, hannounced⟩⟩
    exact .job downstream template prev job hd (by simpa using hcustom) htemplate hprev hof hsets

theorem handles_handleOpenExtendedMiningChannel (hX : X.Laws) (msg : OpenMiningChannel X) :
    Handles cfg lib d s (.openExtendedMiningChannel msg)
      (handleOpenExtendedMiningChannel cfg lib now d msg s) := by
  refine finish_of_sat (sat_bind (sat_ofOption fun _ => .disconnect .refl) fun downstream hd => ?_)
  refine sat_bind (sat_ofExcept fun _ _ => handles_refuseOpen .refl)
    fun extranoncePrefix hprefix => ?_
  refine sat_bind (sat_ofExcept fun _ _ => handles_refuseOpen .refl) fun mode hmode => ?_
  have hreserved : ChangesOf cfg lib d (.openExtendedMiningChannel msg) s _ :=
    changes_reserved hmode
  refine sat_bind (sat_ofExcept fun e _ => handles_newChannelFailure hreserved _ e)
    fun channel hnew => ?_
  obtain ⟨huser, hstore⟩ := hX.newForPool _ _ _ _ _ _ _ _ _ _ _ hnew
  have hopens : OpensChannel cfg lib d s (.openExtendedMiningChannel msg) :=
    .intro .extended msg downstream mode extranoncePrefix channel rfl hd hmode hprefix hnew
  refine sat_bind (sat_exitIf fun _ => .shutdown) fun _ _ => ?_
  refine sat_bind (sat_ofOption fun _ => .disconnect hreserved) fun prev hprev => ?_
  refine sat_bind (sat_ofOption fun _ => .disconnect hreserved) fun template htemplate => ?_
  have hd₂ := downstream?_reserved mode hd
  refine sat_bind (sat_startExtended hX hstore hd₂ _ htemplate hprev) fun started hstarted => ?_
  obtain ⟨huser', hwith, hannounced⟩ := hstarted
  refine sat_bind (sat_addToGroup hX _ _ _ hreserved hd₂ rfl) fun s₃ h₃ => ?_
  refine sat_bind (sat_ofExcept fun _ _ => .shutdown) fun vardiff _ => ?_
  have hregistered : ChangesOf cfg lib d (.openExtendedMiningChannel msg) s
      (registerChannel now d msg s₃ .extended downstream.downstreamData.channelIdFactory
        started.1) := by
    obtain ⟨hchanged, rfl | ⟨group, rfl⟩⟩ := h₃
    · exact changes_registerChannel hchanged hd₂ rfl hmode (huser'.trans huser) hwith hopens
    · have hd₃ := downstream?_setGroupChannel group hd₂
      exact changes_registerChannel hchanged hd₃ rfl hmode (huser'.trans huser)
        (hwith.setGroupChannel group) hopens
  exact sat_pure (.opened (hregistered.tail .insertVardiff) rfl hmode rfl hannounced)

end Opening

/-- **What handling a mining message can do.** -/
theorem handles_handleMiningMessage (hX : X.Laws) (message : MiningMessage X) :
    Handles cfg lib d s message (handleMiningMessage cfg lib now d s message) := by
  cases message with
  | openStandardMiningChannel msg => exact handles_handleOpenStandardMiningChannel hX msg
  | openExtendedMiningChannel msg => exact handles_handleOpenExtendedMiningChannel hX msg
  | updateChannel id hash target => exact handles_handleUpdateChannel hX id hash target
  | closeChannel id => exact handles_handleCloseChannel id
  | submitSharesStandard msg => exact handles_handleSubmitShares hX .standard msg
  | submitSharesExtended msg => exact handles_handleSubmitShares hX .extended msg
  | setCustomMiningJob msg => exact handles_handleSetCustomMiningJob msg

/-! ## What changes leave alone -/

/-- What handling the messages of a connection keeps of it. -/
structure SameSettings (before after : Downstream X) : Prop where
  requiresStandardJobs : after.requiresStandardJobs = before.requiresStandardJobs
  requiresCustomWork : after.requiresCustomWork = before.requiresCustomWork
  groupJobStore : X.groupJobStore after.downstreamData.groupChannel =
    X.groupJobStore before.downstreamData.groupChannel

omit [Double F] in
theorem SameSettings.trans {before middle after : Downstream X} (h : SameSettings before middle)
    (h' : SameSettings middle after) : SameSettings before after :=
  ⟨h'.1.trans h.1, h'.2.trans h.2, h'.3.trans h.3⟩

section Frame

variable {d' : DownstreamId} {after : Downstream X} {opens : Prop}

omit [Double F] in
theorem downstream_before_of_modify {f : DownstreamData X → DownstreamData X}
    (hgroup : ∀ downstream, s.downstream? d = some downstream →
      X.groupJobStore (f downstream.downstreamData).groupChannel =
        X.groupJobStore downstream.downstreamData.groupChannel)
    (hd' : (s.modifyDownstream d f).downstream? d' = some after) :
    ∃ before, s.downstream? d' = some before ∧ SameSettings before after ∧
      (d' ≠ d → after = before) := by
  rw [ManagerState.downstream?_modifyDownstream, Option.map_eq_some_iff] at hd'
  obtain ⟨before, hbefore, rfl⟩ := hd'
  refine ⟨before, hbefore, ?_, fun hne => if_neg hne⟩
  by_cases hd : d' = d
  · rw [if_pos hd]
    exact ⟨rfl, rfl, hgroup before (hd ▸ hbefore)⟩
  · rw [if_neg hd]
    exact ⟨rfl, rfl, rfl⟩

/-- Only the connection of the message changes, and keeps its settings. -/
theorem Change.downstream_before (h : Change cfg lib d opens s s')
    (hd' : s'.downstream? d' = some after) :
    ∃ before, s.downstream? d' = some before ∧ SameSettings before after ∧
      (d' ≠ d → after = before) := by
  cases h with
  | payoutMode _ | channelId => exact downstream_before_of_modify (fun _ _ => rfl) hd'
  | @group downstream group hd hsame =>
    refine downstream_before_of_modify (fun downstream' hd'' => ?_) hd'
    have heq : downstream' = downstream := Option.some.inj (hd''.symm.trans hd)
    rw [heq]
    exact hsame
  | channel _ _ _ =>
    refine downstream_before_of_modify (fun downstream' _ => ?_) hd'
    rw [DownstreamData.groupChannel_setChannels]
  | opened _ _ _ _ _ | closed _ =>
    rw [ManagerState.downstream?_setStats] at hd'
    refine downstream_before_of_modify (fun downstream' _ => ?_) hd'
    rw [DownstreamData.groupChannel_setChannels]
  | insertVardiff | eraseVardiff | stats _ =>
    exact ⟨after, hd', ⟨rfl, rfl, rfl⟩, fun _ => rfl⟩

theorem Changes.downstream_before (h : Changes cfg lib d opens s s')
    (hd' : s'.downstream? d' = some after) :
    ∃ before, s.downstream? d' = some before ∧ SameSettings before after ∧
      (d' ≠ d → after = before) := by
  induction h generalizing after with
  | refl => exact ⟨after, hd', ⟨rfl, rfl, rfl⟩, fun _ => rfl⟩
  | tail _ hchange ih =>
    obtain ⟨middle, hmiddle, hsame, hne⟩ := hchange.downstream_before hd'
    obtain ⟨before, hbefore, hsame', hne'⟩ := ih hmiddle
    exact ⟨before, hbefore, hsame'.trans hsame, fun h => (hne h).trans (hne' h)⟩

/-- What the manager received from the template provider stays as it is. -/
theorem Changes.templates (h : Changes cfg lib d opens s s') :
    s'.data.lastFutureTemplate = s.data.lastFutureTemplate ∧
      s'.data.lastNewPrevHash = s.data.lastNewPrevHash := by
  induction h with
  | refl => exact ⟨rfl, rfl⟩
  | tail _ hchange ih =>
    cases hchange <;> exact ih

/-- What a channel may start with in a state, it may start with in an earlier one. -/
theorem StartedWith.of_changes (h : Changes cfg lib d opens s s') {mode : PayoutMode}
    {kind : MinerChannelKind} {c : X.Channel kind} (hstarted : StartedWith cfg d s' mode c) :
    StartedWith cfg d s mode c := by
  obtain ⟨htemplates, hprevs⟩ := h.templates
  cases hstarted with
  | job downstream template prev job hd hcustom htemplate hprev hof hsets =>
    rw [htemplates] at htemplate
    rw [hprevs] at hprev
    obtain ⟨before, hbefore, hsame, -⟩ := h.downstream_before hd
    exact .job before template prev job hbefore (hsame.requiresCustomWork ▸ hcustom) htemplate
      hprev hof hsets
  | noJob downstream prev hd hcustom hsets =>
    obtain ⟨before, hbefore, hsame, -⟩ := h.downstream_before hd
    exact .noJob before prev hbefore (hsame.requiresCustomWork ▸ hcustom) hsets

/-- **Where a channel comes from.**  A channel after some changes has the jobs of one
before, or was opened. -/
theorem Changes.channel_after (h : Changes cfg lib d opens s s') {kind : MinerChannelKind}
    {id : ChannelId} {c : X.Channel kind} (hc : s'.channel? d' kind id = some c) :
    (∃ c₀, s.channel? d' kind id = some c₀ ∧ X.jobStore c = X.jobStore c₀) ∨
      d' = d ∧ opens ∧ ∃ (mode : PayoutMode) (c₀ : X.Channel kind),
        StartedWith cfg d s mode c₀ ∧ X.jobStore c = X.jobStore c₀ := by
  induction h generalizing c with
  | refl => exact .inl ⟨c, hc, rfl⟩
  | @tail s₁ s₂ hchanges hchange ih =>
    cases hchange with
    | payoutMode _ | channelId | group _ _ | insertVardiff | eraseVardiff | stats _ =>
      exact ih (by simpa using hc)
    | @channel kind' id' old new hold _ hstore =>
      have hd := ManagerState.isSome_downstream?_of_channel? s₁ d kind' id' (by rw [hold]; rfl)
      by_cases hkind : kind = kind'
      · subst hkind
        rw [ManagerState.channel?_insertChannel _ _ _ _ _ _ _ hd] at hc
        split at hc
        · rename_i hkey
          cases hc
          rw [hstore]
          exact ih (by rw [hkey.1, hkey.2, hold])
        · exact ih hc
      · rw [ManagerState.channel?_insertChannel_ne _ _ _ _ _ _ _ _ hkind] at hc
        exact ih hc
    | @opened kind' id' new mode now hash hopens hd _ _ hstarted =>
      rw [ManagerState.channel?_setStats] at hc
      by_cases hkind : kind = kind'
      · subst hkind
        rw [ManagerState.channel?_insertChannel _ _ _ _ _ _ _ hd] at hc
        split at hc
        · rename_i hkey
          cases hc
          exact .inr ⟨hkey.1, hopens, mode, _, hstarted.of_changes hchanges, rfl⟩
        · exact ih hc
      · rw [ManagerState.channel?_insertChannel_ne _ _ _ _ _ _ _ _ hkind] at hc
        exact ih hc
    | closed _ =>
      rw [ManagerState.channel?_setStats, ManagerState.channel?_eraseChannel] at hc
      split at hc
      · cases hc
      · exact ih hc

end Frame

end CanaryMining
