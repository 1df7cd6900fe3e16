import CanaryMining.Lib.Run
import CanaryMining.Manager.Changes
import CanaryMining.Manager.Templates

/-!
# The tasks of the server

The acceptor registers connections, each connection forwards its messages to the
manager until it ends, and the manager handles the messages of all of them and
of the template provider.  A connection that ends, and a handler that asks to
disconnect one, call `remove_downstream`, which takes two locks one after the
other.  Every lock-protected section is one step.

## Main definitions

* `DownstreamPhase`, `ManagerPhase` — where the tasks are.
* `Server`, `ServerAction`, `Server.next` — the steps of all tasks.
* `Server.Started` — the server before its first connection.
* `Server.Handled`, `Server.BookkeepingStep`, `Server.Bookkeeping` — what a step does.
-/

namespace CanaryMining

variable {F : Type} {X : ChannelsSv2 F} {Addr : Type}

/-- How far the task of a connection is. -/
inductive DownstreamPhase
  /-- It waits for `SetupConnection`. -/
  | setup
  /-- It forwards messages. -/
  | running
  /-- It is between the two sections of `remove_downstream`. -/
  | removing
  /-- It has ended. -/
  | ended
  deriving DecidableEq, Repr

/-- Where the task of the manager is. -/
inductive ManagerPhase
  /-- It waits for the next message. -/
  | idle
  /-- A handler asked to disconnect a connection. -/
  | failed (d : DownstreamId)
  /-- It is between the two sections of `remove_downstream`. -/
  | removing (d : DownstreamId)
  deriving DecidableEq, Repr

/-- The state of all tasks.  `sent` are the messages of the last handler. -/
structure Server (X : ChannelsSv2 F) where
  manager : ManagerState X
  accepting : AssocMap DownstreamId X.GroupChannel
  phase : AssocMap DownstreamId DownstreamPhase
  managerPhase : ManagerPhase
  queue : List (DownstreamId × MiningMessage X)
  sent : List (RouteMessageTo X)

/-- The steps of the tasks. -/
inductive ServerAction (X : ChannelsSv2 F)
  /-- The acceptor takes an id and makes a group channel for a new connection. -/
  | bootstrap
  /-- It registers the connection and starts its task. -/
  | register (d : DownstreamId)
  /-- The connection handles `SetupConnection`. -/
  | setupConnection (d : DownstreamId) (requiresStandardJobs requiresCustomWork : Bool)
  /-- It forwards a message to the manager. -/
  | forward (d : DownstreamId) (message : MiningMessage X)
  /-- The manager handles the oldest forwarded message. -/
  | handleMining (now : UInt64)
  /-- It handles a message of the template provider. -/
  | newTemplate (template : NewTemplate) (orders : MapOrders)
  | setNewPrevHash (message : SetNewPrevHash) (orders : MapOrders)
  /-- The two sections of its `remove_downstream`. -/
  | managerClosesSessions (now : UInt64)
  | managerRemoves
  /-- The two sections of the `remove_downstream` of a connection that ends. -/
  | connectionClosesSessions (d : DownstreamId) (now : UInt64)
  | connectionRemoves (d : DownstreamId)
  /-- The dashboard polls the registry. -/
  | poll (now : UInt64) (order : IterOrder (MinerSessionSnapshot F))

/-- `FULL_EXTRANONCE_SIZE`. -/
def fullExtranonceSize : ℕ := 20

namespace ManagerState

/-- `bootstrap_group_channel`, where both messages of the template provider were
received. -/
def bootstrapGroupChannel (cfg : ManagerConfig F) (s : ManagerState X) (channelId : ChannelId) :
    Option X.GroupChannel := do
  let template ← s.data.lastFutureTemplate
  let prev ← s.data.lastNewPrevHash
  let group ← (X.newGroupForPool channelId .new fullExtranonceSize cfg.poolTagString).toOption
  let output : TxOut := ⟨template.coinbaseTxValueRemaining, cfg.coinbaseRewardScript⟩
  let group ← (X.groupOnNewTemplate group template [output]).toOption
  (X.groupOnSetNewPrevHash group prev).toOption

/-- The id of the group channel, the first of a connection. -/
def groupChannelIdOfNew : ChannelId := 1

/-- `Downstream::new`. -/
def newDownstream (group : X.GroupChannel) : Downstream X :=
  ⟨⟨∅, ∅, group, groupChannelIdOfNew + 1, none⟩, false, false⟩

/-- The connection is inserted. -/
def registerDownstream (s : ManagerState X) (d : DownstreamId) (group : X.GroupChannel) :
    ManagerState X :=
  { s with data := { s.data with
      downstream := s.data.downstream.insert d (newDownstream group) } }

/-- `downstream_id_factory.fetch_add(1)`. -/
def nextDownstreamId (s : ManagerState X) : ManagerState X :=
  { s with data := { s.data with downstreamIdFactory := s.data.downstreamIdFactory + 1 } }

/-- The flags of `SetupConnection` are stored. -/
def setFlags (s : ManagerState X) (d : DownstreamId)
    (requiresStandardJobs requiresCustomWork : Bool) : ManagerState X :=
  { s with data := { s.data with
      downstream := s.data.downstream.modify d fun downstream =>
        { downstream with
          requiresStandardJobs := requiresStandardJobs
          requiresCustomWork := requiresCustomWork } } }

/-- The first section of `remove_downstream`. -/
def closeSessions (s : ManagerState X) (now : UInt64) (d : DownstreamId) : ManagerState X :=
  s.setStats (s.minerStats.recordDownstreamClosed now d).1

/-- The second section of `remove_downstream`. -/
def removeDownstream (s : ManagerState X) (d : DownstreamId) : ManagerState X :=
  { s with data := { s.data with
      downstream := s.data.downstream.erase d
      vardiff := s.data.vardiff.retain fun key _ => decide (key.1 ≠ d) } }

end ManagerState

namespace Server

/-- The manager goes on with what a handler left; nothing follows a shutdown. -/
def afterHandler (s : Server X) : Outcome X → Option (Server X)
  | .ok manager messages => some { s with manager := manager, sent := messages }
  | .disconnect manager _ d =>
    some { s with manager := manager, sent := [], managerPhase := .failed d }
  | .shutdown _ => none
  | .panic _ => none

/-- The state with another manager and no message sent. -/
def silently (s : Server X) (manager : ManagerState X) : Server X :=
  { s with manager := manager, sent := [] }

/-- **The steps of the server.** -/
def next [Double F] (cfg : ManagerConfig F) (lib : AddressLib Addr) (s : Server X) :
    ServerAction X → Option (Server X)
  | .bootstrap =>
    match s.manager.bootstrapGroupChannel cfg ManagerState.groupChannelIdOfNew with
    | none => none
    | some group =>
      some { s.silently s.manager.nextDownstreamId with
        accepting := s.accepting.insert s.manager.data.downstreamIdFactory group }
  | .register d =>
    match s.accepting.lookup d with
    | none => none
    | some group =>
      some { s.silently (s.manager.registerDownstream d group) with
        accepting := s.accepting.erase d
        phase := s.phase.insert d .setup }
  | .setupConnection d requiresStandardJobs requiresCustomWork =>
    if s.phase.lookup d = some .setup then
      some { s.silently (s.manager.setFlags d requiresStandardJobs requiresCustomWork) with
        phase := s.phase.insert d .running }
    else none
  | .forward d message =>
    if s.phase.lookup d = some .running then
      some { s with queue := s.queue ++ [(d, message)], sent := [] }
    else none
  | .handleMining now =>
    match s.managerPhase, s.queue with
    | .idle, (d, message) :: queue =>
      afterHandler { s with queue := queue } (handleMiningMessage cfg lib now d s.manager message)
    | _, _ => none
  | .newTemplate template orders =>
    if s.managerPhase = .idle then s.afterHandler (handleNewTemplate cfg template orders s.manager)
    else none
  | .setNewPrevHash message orders =>
    if s.managerPhase = .idle then s.afterHandler (handleSetNewPrevHash message orders s.manager)
    else none
  | .managerClosesSessions now =>
    match s.managerPhase with
    | .failed d =>
      some { s.silently (s.manager.closeSessions now d) with managerPhase := .removing d }
    | _ => none
  | .managerRemoves =>
    match s.managerPhase with
    | .removing d => some { s.silently (s.manager.removeDownstream d) with managerPhase := .idle }
    | _ => none
  | .connectionClosesSessions d now =>
    if s.phase.lookup d = some .setup ∨ s.phase.lookup d = some .running then
      some { s.silently (s.manager.closeSessions now d) with
        phase := s.phase.insert d .removing }
    else none
  | .connectionRemoves d =>
    if s.phase.lookup d = some .removing then
      some { s.silently (s.manager.removeDownstream d) with phase := s.phase.insert d .ended }
    else none
  | .poll now order =>
    some (s.silently (s.manager.setStats (s.manager.minerStats.snapshots now order).1))

/-- The server before its first connection, with any messages of the template provider
received. -/
structure Started (s : Server X) : Prop where
  downstream : s.manager.data.downstream = ∅
  minerStats : s.manager.minerStats = .new
  accepting : s.accepting = ∅
  phase : s.phase = ∅
  managerPhase : s.managerPhase = .idle
  queue : s.queue = []
  sent : s.sent = []

end Server

/-! ## What look-ups see of the steps -/

namespace ManagerState

variable (s : ManagerState X) (d d' : DownstreamId)

theorem downstream?_registerDownstream (group : X.GroupChannel) :
    (s.registerDownstream d group).downstream? d' =
      if d' = d then some (newDownstream group) else s.downstream? d' := by
  simp [downstream?, registerDownstream]

theorem downstream?_removeDownstream :
    (s.removeDownstream d).downstream? d' = if d' = d then none else s.downstream? d' := by
  simp [downstream?, removeDownstream]

theorem downstream?_setFlags (std custom : Bool) : (s.setFlags d std custom).downstream? d' =
    (s.downstream? d').map fun downstream => if d' = d then
      { downstream with requiresStandardJobs := std, requiresCustomWork := custom }
    else downstream := by
  simp [downstream?, setFlags]

@[simp] theorem downstream?_closeSessions (now : UInt64) :
    (s.closeSessions now d).downstream? d' = s.downstream? d' := rfl

@[simp] theorem downstream?_nextDownstreamId :
    s.nextDownstreamId.downstream? d' = s.downstream? d' := rfl

end ManagerState

/-! ## What the steps do -/

/-- The steps in which the manager handles a message. -/
def ServerAction.isHandler : ServerAction X → Bool
  | .handleMining _ | .newTemplate _ _ | .setNewPrevHash _ _ => true
  | _ => false

namespace Server

open ManagerState

variable {cfg : ManagerConfig F} {lib : AddressLib Addr} {s s' : Server X}

/-- The manager has handled a message: it left a state, the tasks of the connections
go on. -/
structure Handled (s : Server X) (outcome : Outcome X) (s' : Server X) : Prop where
  state : outcome.state? = some s'.manager
  sent : s'.sent = outcome.sent
  phase : s'.phase = s.phase
  accepting : s'.accepting = s.accepting
  managerPhase : s'.managerPhase = s.managerPhase ∨ ∃ d, s'.managerPhase = .failed d

theorem handled_of_afterHandler {outcome : Outcome X} (h : s.afterHandler outcome = some s') :
    Handled s outcome s' := by
  cases outcome with
  | ok manager messages =>
    cases h
    exact ⟨rfl, rfl, rfl, rfl, .inl rfl⟩
  | disconnect manager kind d =>
    cases h
    exact ⟨rfl, rfl, rfl, rfl, .inr ⟨d, rfl⟩⟩
  | shutdown _ => cases h
  | panic _ => cases h

section Handlers

variable [Double F]

theorem handled_handleMining (hX : X.Laws) {now : UInt64}
    (h : next cfg lib s (.handleMining now) = some s') : s.managerPhase = .idle ∧
      ∃ d message queue outcome, s.queue = (d, message) :: queue ∧
        Handles cfg lib d s.manager message outcome ∧ Handled s outcome s' := by
  simp only [next] at h
  split at h
  · rename_i d message queue hidle hqueue
    have hafter := handled_of_afterHandler h
    exact ⟨hidle, d, message, queue, _, hqueue,
      handles_handleMiningMessage hX message, hafter.state, hafter.sent, hafter.phase,
      hafter.accepting, hafter.managerPhase⟩
  · cases h

omit [Double F] in
/-- A handler forwards no message. -/
theorem queue_of_afterHandler {outcome : Outcome X} (h : s.afterHandler outcome = some s') :
    s'.queue = s.queue := by
  cases outcome with
  | ok manager messages =>
    cases h
    rfl
  | disconnect manager kind d =>
    cases h
    rfl
  | shutdown _ => cases h
  | panic _ => cases h

theorem mem_queue_of_handler {a : ServerAction X} (h : next cfg lib s a = some s')
    (ha : a.isHandler = true) {e : DownstreamId × MiningMessage X} (he : e ∈ s'.queue) :
    e ∈ s.queue := by
  cases a with
  | handleMining now =>
    simp only [next] at h
    split at h
    · rename_i d message queue hidle hqueue
      rw [queue_of_afterHandler h] at he
      rw [hqueue]
      exact List.mem_cons_of_mem _ he
    · cases h
  | newTemplate template orders =>
    simp only [next] at h
    split at h
    · exact queue_of_afterHandler h ▸ he
    · cases h
  | setNewPrevHash message orders =>
    simp only [next] at h
    split at h
    · exact queue_of_afterHandler h ▸ he
    · cases h
  | _ => cases ha

theorem handled_newTemplate (hX : X.Laws) {template : NewTemplate} {orders : MapOrders}
    (h : next cfg lib s (.newTemplate template orders) = some s') :
    s.managerPhase = .idle ∧ ∃ outcome, NewTemplateHandled cfg template s.manager outcome ∧
      Handled s outcome s' := by
  simp only [next] at h
  split at h
  · rename_i hidle
    exact ⟨hidle, _, newTemplateHandled hX orders s.manager, handled_of_afterHandler h⟩
  · cases h

theorem handled_setNewPrevHash {message : SetNewPrevHash} {orders : MapOrders}
    (h : next cfg lib s (.setNewPrevHash message orders) = some s') :
    s.managerPhase = .idle ∧ ∃ outcome, NewPrevHashHandled message s.manager outcome ∧
      Handled s outcome s' := by
  simp only [next] at h
  split at h
  · rename_i hidle
    exact ⟨hidle, _, newPrevHashHandled orders s.manager, handled_of_afterHandler h⟩
  · cases h

end Handlers

/-- The connection is not set up yet. -/
def Idle (s : Server X) (d : DownstreamId) : Prop :=
  s.phase.lookup d = none ∨ s.phase.lookup d = some .setup

/-- What any other step does to the connections: each one registered is new, or was
registered with the same data, and with the same flags once it is set up. -/
structure Bookkeeping (cfg : ManagerConfig F) (s s' : Server X) : Prop where
  sent : s'.sent = []
  lastFutureTemplate : s'.manager.data.lastFutureTemplate = s.manager.data.lastFutureTemplate
  lastNewPrevHash : s'.manager.data.lastNewPrevHash = s.manager.data.lastNewPrevHash
  downstream : ∀ d downstream', s'.manager.downstream? d = some downstream' →
    (∃ downstream, s.manager.downstream? d = some downstream ∧
      downstream'.downstreamData = downstream.downstreamData ∧
      (s.Idle d ∨ downstream' = downstream)) ∨
    ∃ group, s.accepting.lookup d = some group ∧
      downstream' = ManagerState.newDownstream group
  accepting : ∀ d group, s'.accepting.lookup d = some group →
    s.accepting.lookup d = some group ∨
      s.manager.bootstrapGroupChannel cfg ManagerState.groupChannelIdOfNew = some group
  idle : ∀ d, s'.Idle d → s.Idle d ∨ (s.accepting.lookup d).isSome
  queue : ∀ e ∈ s'.queue, e ∈ s.queue ∨ s.phase.lookup e.1 = some .running

/-- The task of a connection goes on. -/
theorem idle_of_insert {d d' : DownstreamId} {p : DownstreamPhase}
    (hphase : s'.phase = s.phase.insert d p) (hp : p ≠ .setup) (h : s'.Idle d') : s.Idle d' := by
  unfold Idle at *
  rw [hphase, AssocMap.lookup_insert_if] at h
  by_cases hd : d' = d
  · rw [if_pos hd] at h
    rcases h with h | h
    · cases h
    · exact absurd (Option.some.inj h) hp
  · rw [if_neg hd] at h
    exact h

/-- Bookkeeping that changes no record of a connection but removes some. -/
theorem Bookkeeping.of_downstream (hsent : s'.sent = [])
    (hdata : s'.manager.data.lastFutureTemplate = s.manager.data.lastFutureTemplate ∧
      s'.manager.data.lastNewPrevHash = s.manager.data.lastNewPrevHash)
    (hdown : ∀ d downstream', s'.manager.downstream? d = some downstream' →
      s.manager.downstream? d = some downstream')
    (haccepting : s'.accepting = s.accepting) (hidle : ∀ d, s'.Idle d → s.Idle d)
    (hqueue : s'.queue = s.queue) : Bookkeeping cfg s s' where
  sent := hsent
  lastFutureTemplate := hdata.1
  lastNewPrevHash := hdata.2
  downstream d downstream' h := .inl ⟨downstream', hdown d downstream' h, rfl, .inr rfl⟩
  accepting _ _ h := .inl (haccepting ▸ h)
  idle d h := .inl (hidle d h)
  queue _ h := .inl (hqueue ▸ h)

/-- A removed connection leaves the records of the others. -/
theorem downstream?_of_removeDownstream {d d' : DownstreamId} {downstream : Downstream X}
    (h : (s.manager.removeDownstream d).downstream? d' = some downstream) :
    s.manager.downstream? d' = some downstream := by
  rw [downstream?_removeDownstream] at h
  split at h
  · cases h
  · exact h

/-- The steps that handle no message: when each is taken, and the state it leads to. -/
inductive BookkeepingStep [Double F] (cfg : ManagerConfig F) (s : Server X) :
    ServerAction X → Server X → Prop
  | bootstrap {group : X.GroupChannel}
      (hgroup : s.manager.bootstrapGroupChannel cfg ManagerState.groupChannelIdOfNew =
        some group) :
      BookkeepingStep cfg s .bootstrap
        { s.silently s.manager.nextDownstreamId with
          accepting := s.accepting.insert s.manager.data.downstreamIdFactory group }
  | register {d : DownstreamId} {group : X.GroupChannel}
      (hgroup : s.accepting.lookup d = some group) :
      BookkeepingStep cfg s (.register d)
        { s.silently (s.manager.registerDownstream d group) with
          accepting := s.accepting.erase d
          phase := s.phase.insert d .setup }
  | setupConnection {d : DownstreamId} {std custom : Bool}
      (hsetup : s.phase.lookup d = some .setup) :
      BookkeepingStep cfg s (.setupConnection d std custom)
        { s.silently (s.manager.setFlags d std custom) with phase := s.phase.insert d .running }
  | forward {d : DownstreamId} {message : MiningMessage X}
      (hrunning : s.phase.lookup d = some .running) :
      BookkeepingStep cfg s (.forward d message)
        { s with queue := s.queue ++ [(d, message)], sent := [] }
  | managerClosesSessions {now : UInt64} {d : DownstreamId} (hfailed : s.managerPhase = .failed d) :
      BookkeepingStep cfg s (.managerClosesSessions now)
        { s.silently (s.manager.closeSessions now d) with managerPhase := .removing d }
  | managerRemoves {d : DownstreamId} (hremoving : s.managerPhase = .removing d) :
      BookkeepingStep cfg s .managerRemoves
        { s.silently (s.manager.removeDownstream d) with managerPhase := .idle }
  | connectionClosesSessions {d : DownstreamId} {now : UInt64}
      (hopen : s.phase.lookup d = some .setup ∨ s.phase.lookup d = some .running) :
      BookkeepingStep cfg s (.connectionClosesSessions d now)
        { s.silently (s.manager.closeSessions now d) with phase := s.phase.insert d .removing }
  | connectionRemoves {d : DownstreamId} (hremoving : s.phase.lookup d = some .removing) :
      BookkeepingStep cfg s (.connectionRemoves d)
        { s.silently (s.manager.removeDownstream d) with phase := s.phase.insert d .ended }
  | poll {now : UInt64} {order : IterOrder (MinerSessionSnapshot F)} :
      BookkeepingStep cfg s (.poll now order)
        (s.silently (s.manager.setStats (s.manager.minerStats.snapshots now order).1))

/-- **What a step does** that handles no message. -/
theorem bookkeepingStep_of_next [Double F] {a : ServerAction X} (h : next cfg lib s a = some s')
    (ha : a.isHandler = false) : BookkeepingStep cfg s a s' := by
  cases a with
  | bootstrap =>
    simp only [next] at h
    split at h
    · cases h
    · rename_i group hgroup
      cases h
      exact .bootstrap hgroup
  | register d =>
    simp only [next] at h
    split at h
    · cases h
    · rename_i group hgroup
      cases h
      exact .register hgroup
  | setupConnection d std custom =>
    simp only [next] at h
    split at h
    · rename_i hsetup
      cases h
      exact .setupConnection hsetup
    · cases h
  | forward d message =>
    simp only [next] at h
    split at h
    · rename_i hrunning
      cases h
      exact .forward hrunning
    · cases h
  | handleMining _ | newTemplate _ _ | setNewPrevHash _ _ => cases ha
  | managerClosesSessions now =>
    simp only [next] at h
    split at h
    · rename_i d hfailed
      cases h
      exact .managerClosesSessions hfailed
    · cases h
  | managerRemoves =>
    simp only [next] at h
    split at h
    · rename_i d hremoving
      cases h
      exact .managerRemoves hremoving
    · cases h
  | connectionClosesSessions d now =>
    simp only [next] at h
    split at h
    · rename_i hopen
      cases h
      exact .connectionClosesSessions hopen
    · cases h
  | connectionRemoves d =>
    simp only [next] at h
    split at h
    · rename_i hremoving
      cases h
      exact .connectionRemoves hremoving
    · cases h
  | poll now order =>
    cases h
    exact .poll

theorem bookkeeping_of_next [Double F] {a : ServerAction X} (h : next cfg lib s a = some s')
    (ha : a.isHandler = false) : Bookkeeping cfg s s' := by
  cases bookkeepingStep_of_next h ha with
  | bootstrap hgroup =>
    refine ⟨rfl, rfl, rfl, fun d downstream' hd => .inl ⟨downstream', hd, rfl, .inr rfl⟩,
      fun d group' hd => ?_, fun d hd => .inl hd, fun _ he => .inl he⟩
    rw [AssocMap.lookup_insert_if] at hd
    split at hd
    · exact .inr (hd ▸ hgroup)
    · exact .inl hd
  | @register d group hgroup =>
    refine ⟨rfl, rfl, rfl, fun d' downstream' hd => ?_, fun d' group' hd => .inl ?_,
      fun d' hd => ?_, fun _ he => .inl he⟩
    · rw [silently, downstream?_registerDownstream] at hd
      split at hd
      · rename_i heq
        exact .inr ⟨group, heq ▸ hgroup, (Option.some.inj hd).symm⟩
      · exact .inl ⟨downstream', hd, rfl, .inr rfl⟩
    · rw [AssocMap.lookup_erase_if] at hd
      split at hd
      · cases hd
      · exact hd
    · by_cases heq : d' = d
      · right
        rw [heq, hgroup]
        rfl
      · left
        unfold Idle at *
        rw [AssocMap.lookup_insert_if, if_neg heq] at hd
        exact hd
  | @setupConnection d std custom hsetup =>
    refine ⟨rfl, rfl, rfl, fun d' downstream' hd => .inl ?_, fun _ _ hd => .inl hd,
      fun d' hd => .inl (idle_of_insert rfl (by decide) hd), fun _ he => .inl he⟩
    rw [silently, downstream?_setFlags, Option.map_eq_some_iff] at hd
    obtain ⟨downstream, hold, rfl⟩ := hd
    by_cases heq : d' = d
    · rw [if_pos heq]
      exact ⟨downstream, hold, rfl, .inl (.inr (heq ▸ hsetup))⟩
    · rw [if_neg heq]
      exact ⟨downstream, hold, rfl, .inr rfl⟩
  | forward hrunning =>
    refine ⟨rfl, rfl, rfl, fun d downstream' hd => .inl ⟨downstream', hd, rfl, .inr rfl⟩,
      fun _ _ hd => .inl hd, fun d hd => .inl hd, fun e he => ?_⟩
    rcases List.mem_append.1 he with he | he
    · exact .inl he
    · rw [List.mem_singleton.1 he]
      exact .inr hrunning
  | managerClosesSessions _ | poll =>
    exact .of_downstream rfl ⟨rfl, rfl⟩ (fun _ _ hd => hd) rfl (fun _ hd => hd) rfl
  | managerRemoves _ =>
    exact .of_downstream rfl ⟨rfl, rfl⟩ (fun _ _ hd => downstream?_of_removeDownstream hd) rfl
      (fun _ hd => hd) rfl
  | connectionClosesSessions _ =>
    exact .of_downstream rfl ⟨rfl, rfl⟩ (fun _ _ hd => hd) rfl
      (fun d' hd => idle_of_insert rfl (by decide) hd) rfl
  | connectionRemoves _ =>
    exact .of_downstream rfl ⟨rfl, rfl⟩ (fun _ _ hd => downstream?_of_removeDownstream hd) rfl
      (fun d' hd => idle_of_insert rfl (by decide) hd) rfl

/-- Bookkeeping opens no channel and sets no payout mode. -/
theorem Bookkeeping.channel_before (h : Bookkeeping cfg s s') {d : DownstreamId}
    {kind : MinerChannelKind} {id : ChannelId} {c : X.Channel kind}
    (hc : s'.manager.channel? d kind id = some c) :
    s.manager.channel? d kind id = some c ∧
      s'.manager.payoutMode? d = s.manager.payoutMode? d := by
  rw [channel?_eq_some] at hc ⊢
  obtain ⟨downstream', hd', hc⟩ := hc
  rcases h.downstream d downstream' hd' with ⟨downstream, hd, hdata, -⟩ | ⟨group, -, rfl⟩
  · rw [hdata] at hc
    refine ⟨⟨downstream, hd, hc⟩, ?_⟩
    rw [payoutMode?, payoutMode?, hd, hd', Option.bind_some, Option.bind_some, hdata]
  · cases kind <;> cases hc

end Server

/-! ## A pool over the table of channels -/

/-- The settings of a pool on the regression network. -/
def tableConfig : ManagerConfig ExactDouble := ⟨"canary".toList, 1, .num 6, [], some .regtest⟩

/-- The future template of a tip. -/
def tipTemplate : NewTemplate := ⟨1, true, 5000000000⟩

/-- The previous hash of the tip. -/
def tipPrevHash : SetNewPrevHash := ⟨1, 7, 1700000000, 0x207fffff⟩

/-- A server that has received the tip. -/
def tableServer : Server tableChannels :=
  ⟨⟨⟨∅, 1, ∅, [], some tipPrevHash, some tipTemplate⟩, .new⟩, ∅, ∅, .idle, [], []⟩

theorem tableServer_started : tableServer.Started := ⟨rfl, rfl, rfl, rfl, rfl, rfl, rfl⟩

/-- An open of a standard channel. -/
def openStandard (userIdentity : Text) (nominalHashRate : ExactDouble) :
    MiningMessage tableChannels :=
  .openStandardMiningChannel ⟨1, userIdentity, nominalHashRate, (0 : ℕ), .ok [], .ok (0 : ℕ)⟩

/-- The first connection is accepted and set up, and asks for two channels. -/
def twoOpens (first second : MiningMessage tableChannels) : List (ServerAction tableChannels) :=
  [.bootstrap, .register 1, .setupConnection 1 false false, .forward 1 first, .forward 1 second,
    .handleMining 0]

end CanaryMining
