import CanaryMining.Manager.Connections
import CanaryMining.Manager.Inventory

/-!
# What the connections are told

The manager does not hand its messages to the connections itself: it forwards them, one by
one and after its lock is released, into a channel of each connection, while the tasks of
the connections go on and may remove these channels.  In between, the vardiff cycle runs in
the task of the manager.

## Main definitions

* `DownstreamChannel` — the channel from the manager to a connection.
* `PoolServer`, `PoolServerAction`, `PoolServer.next` — the tasks with these channels.
* `sentTo` — the messages for one connection.
* `PoolServer.Consistent` — what holds between the tasks.

**Main result:** `PoolServer.Consistent.next`.
-/

namespace CanaryMining

variable {F : Type} {X : ChannelsSv2 F} {Addr : Type}

/-- The channel from the manager to a connection: what was put into it, and whether its
receiver is still there. -/
structure DownstreamChannel (X : ChannelsSv2 F) where
  messages : List (Mining X)
  isOpen : Bool

/-- The tasks of the server with the channels of the connections. -/
structure PoolServer (X : ChannelsSv2 F) where
  server : Server X
  /-- `downstream_sender`. -/
  downstreamSender : AssocMap DownstreamId (DownstreamChannel X)
  /-- What the manager still has to forward. -/
  outbox : List (RouteMessageTo X)
  /-- What was sent to the template provider. -/
  solutions : List SubmitSolution
  /-- The connections that still have to remove their sender, and the one the manager has
  to remove. -/
  leaving : List DownstreamId
  removing : Option DownstreamId

/-- The steps of the tasks. -/
inductive PoolServerAction (X : ChannelsSv2 F)
  | server (a : ServerAction X)
  /-- The acceptor inserts the sender of a connection, before it registers the connection. -/
  | insertSender (d : DownstreamId)
  /-- The task of a connection closes its receiver. -/
  | closeReceiver (d : DownstreamId)
  /-- The vardiff cycle. -/
  | runVardiff (order : IterOrder (DownstreamId × ChannelId))
  /-- The manager forwards its oldest message. -/
  | forward
  /-- The last section of `remove_downstream`, of a connection or of the manager. -/
  | removeSender (d : DownstreamId)
  | managerRemovesSender

namespace PoolServer

/-- The manager has forwarded everything and finished its last removal. -/
def Idle (s : PoolServer X) : Prop :=
  s.server.managerPhase = .idle ∧ s.outbox.isEmpty ∧ s.removing = none

instance (s : PoolServer X) : Decidable s.Idle := inferInstanceAs (Decidable (_ ∧ _))

/-- A message for a connection would be handed over, or dropped since there is no sender. -/
def takes (s : PoolServer X) (d : DownstreamId) : Bool :=
  match s.downstreamSender.lookup d with
  | some channel => channel.isOpen
  | none => true

/-- The message that is handled next says rightly whether its answer could be forwarded. -/
def foretells (s : PoolServer X) : Bool :=
  match s.server.queue with
  | (d, .setCustomMiningJob msg) :: _ => msg.forwarded == s.takes d
  | _ => true

/-- `RouteMessageTo::forward`.  A message for a connection that has no sender, or whose
receiver is closed, is dropped. -/
def forward (s : PoolServer X) : RouteMessageTo X → PoolServer X
  | .templateProvider solution => { s with solutions := s.solutions ++ [solution] }
  | .downstream d message =>
    { s with downstreamSender := s.downstreamSender.modify d fun channel =>
        if channel.isOpen then { channel with messages := channel.messages ++ [message] }
        else channel }

/-- When a step of the server can be taken: the manager handles a message if it is idle, and
a connection is registered once it has a sender. -/
def Allows (s : PoolServer X) : ServerAction X → Prop
  | .handleMining _ => s.Idle ∧ s.foretells
  | .newTemplate _ _ | .setNewPrevHash _ _ => s.Idle
  | .register d => (s.downstreamSender.lookup d).isSome
  | _ => True

instance (s : PoolServer X) (a : ServerAction X) : Decidable (s.Allows a) := by
  unfold Allows
  split <;> infer_instance

/-- The state after a step of the server, whose messages are forwarded next. -/
def afterServer (s : PoolServer X) (server : Server X) : ServerAction X → PoolServer X
  | .connectionRemoves d =>
    { s with server := server, outbox := s.outbox ++ server.sent, leaving := d :: s.leaving }
  | .managerRemoves =>
    { s with
      server := server
      outbox := s.outbox ++ server.sent
      removing := match s.server.managerPhase with
        | .removing d => some d
        | _ => s.removing }
  | _ => { s with server := server, outbox := s.outbox ++ server.sent }

/-- **The steps of the server with its channels.** -/
def next [Double F] (cfg : ManagerConfig F) (lib : AddressLib Addr) (V : VardiffLib X)
    (s : PoolServer X) : PoolServerAction X → Option (PoolServer X)
  | .server a =>
    if s.Allows a then (s.server.next cfg lib a).map fun server => s.afterServer server a
    else none
  | .insertSender d =>
    if (s.server.accepting.lookup d).isSome ∧ s.downstreamSender.lookup d = none then
      some { s with downstreamSender := s.downstreamSender.insert d ⟨[], true⟩ }
    else none
  | .closeReceiver d =>
    if (s.server.phase.lookup d).isSome then
      some { s with downstreamSender := s.downstreamSender.modify d fun channel =>
        { channel with isOpen := false } }
    else none
  | .runVardiff order =>
    if s.Idle then
      let r := runVardiff V order s.server.manager
      some { s with server := s.server.silently r.1, outbox := s.outbox ++ r.2 }
    else none
  | .forward =>
    match s.outbox with
    | [] => none
    | message :: outbox => some ({ s with outbox := outbox }.forward message)
  | .removeSender d =>
    if d ∈ s.leaving then
      some { s with
        downstreamSender := s.downstreamSender.erase d
        leaving := s.leaving.erase d }
    else none
  | .managerRemovesSender =>
    match s.removing with
    | none => none
    | some d =>
      some { s with downstreamSender := s.downstreamSender.erase d, removing := none }

/-- The server before its first connection. -/
structure Started (s : PoolServer X) : Prop where
  server : s.server.Started
  vardiff : s.server.manager.data.vardiff = ∅
  downstreamSender : s.downstreamSender = ∅
  outbox : s.outbox = []
  leaving : s.leaving = []
  removing : s.removing = none

end PoolServer

/-! ## What one connection is told -/

/-- The messages for one connection. -/
def sentTo (d : DownstreamId) (messages : List (RouteMessageTo X)) : List (Mining X) :=
  messages.filterMap fun
    | .templateProvider _ => none
    | .downstream d' m => if d' = d then some m else none

@[simp] theorem sentTo_nil (d : DownstreamId) : sentTo d ([] : List (RouteMessageTo X)) = [] := rfl

@[simp] theorem sentTo_append (d : DownstreamId) (messages sent : List (RouteMessageTo X)) :
    sentTo d (messages ++ sent) = sentTo d messages ++ sentTo d sent :=
  List.filterMap_append

theorem mem_sentTo {d : DownstreamId} {messages : List (RouteMessageTo X)} {m : Mining X} :
    m ∈ sentTo d messages ↔ .downstream d m ∈ messages := by
  simp only [sentTo, List.mem_filterMap]
  constructor
  · rintro ⟨msg, hmsg, h⟩
    cases msg with
    | templateProvider _ => cases h
    | downstream d' m' =>
      simp only [Option.ite_none_right_eq_some, Option.some.injEq] at h
      rw [← h.1, ← h.2]
      exact hmsg
  · intro h
    exact ⟨_, h, by simp⟩

theorem sentTo_map_downstream (d d' : DownstreamId) (messages : List (Mining X)) :
    sentTo d' (messages.map (.downstream d)) = if d' = d then messages else [] := by
  unfold sentTo
  rw [List.filterMap_map]
  split
  · rename_i hd
    subst hd
    simp
  · rename_i hd
    simp [Ne.symm hd]

section Inventory

variable {opens sends opens' sends' : DownstreamId → Prop} {s s' : ManagerState X}
  {d : DownstreamId} {messages : List (RouteMessageTo X)}

/-- Controllers and channels that are kept belong together as before. -/
theorem ManagerState.Covered.kept (h : s.Covered) (hkeeps : KeepsInventory s s') :
    s'.Covered := by
  intro d id
  simp only [hkeeps.vardiff, hkeeps.channel]
  exact h d id

/-- A step keeps the controllers those of the channels. -/
theorem ManagerState.Covered.inventory (h : s.Covered)
    (hstep : Inventory opens sends s s' messages) : s'.Covered := by
  cases hstep with
  | kept hkeeps _ _ | refused _ hkeeps _ _ => exact h.kept hkeeps.toKeepsInventory
  | @opened d₀ id₀ groupId _ hopens =>
    intro d id
    have hold := h d id
    obtain ⟨kind, hchannel⟩ := hopens.channel
    simp only [hopens.vardiff, hchannel, Bool.or_eq_true, decide_eq_true_eq, Prod.mk.injEq, hold]
    constructor
    · rintro (⟨hd, hid⟩ | ⟨kind', hc⟩)
      · exact ⟨kind, .inl ⟨hd, rfl, hid⟩⟩
      · exact ⟨kind', .inr hc⟩
    · rintro ⟨kind', ⟨hd, -, hid⟩ | hc⟩
      · exact .inl ⟨hd, hid⟩
      · exact .inr ⟨kind', hc⟩
  | @closed d₀ id₀ hcloses _ =>
    intro d id
    have hold := h d id
    by_cases hkey : d = d₀ ∧ id = id₀
    · simp [hcloses.vardiff, hcloses.channel, hkey]
    · simp [hcloses.vardiff, hcloses.channel, hkey, hold]

theorem AllFit.imp (h : AllFit sends s messages) (himp : ∀ d, sends d → sends' d) :
    AllFit sends' s messages := by
  intro d m hm
  obtain ⟨hregistered, htopics, hintroduced, hclose⟩ := h d m hm
  exact ⟨hregistered.imp_right (himp d), htopics, hintroduced, hclose⟩

theorem Inventory.imp (h : Inventory opens sends s s' messages)
    (himp : ∀ d, opens d → opens' d) (himp' : ∀ d, sends d → sends' d) :
    Inventory opens' sends' s s' messages := by
  cases h with
  | kept hkeeps hnumbers hfit => exact .kept hkeeps hnumbers (hfit.imp himp')
  | refused hopens hkeeps hnumber hfit =>
    exact .refused (himp _ hopens) hkeeps hnumber (hfit.imp himp')
  | opened hopens hopened => exact .opened (himp _ hopens) hopened
  | closed hcloses hnil => exact .closed hcloses hnil

/-- Messages go to registered connections or the one whose message is handled, and none
closes a channel. -/
theorem Inventory.fits (h : Inventory opens sends s s' messages) {m : Mining X}
    (hm : .downstream d m ∈ messages) :
    ((s.downstream? d).isSome ∨ sends d) ∧ m.isCloseChannel = false := by
  cases h with
  | kept _ _ hfit | refused _ _ _ hfit =>
    exact ⟨(hfit d m hm).registered, (hfit d m hm).isCloseChannel⟩
  | opened _ hopens =>
    obtain ⟨success, started, rfl, -, -, hclose, ⟨kind, c, hmade⟩, -⟩ := hopens.messages
    obtain ⟨m', hm', heq⟩ := List.mem_map.1 hm
    obtain ⟨rfl, rfl⟩ := RouteMessageTo.downstream.inj heq
    refine ⟨.inl hopens.registered, ?_⟩
    rcases List.mem_cons.1 hm' with rfl | hm'
    · exact hclose
    · exact (hmade.openedId _ hm').2
  | closed _ hnil =>
    rw [hnil] at hm
    cases hm

end Inventory

/-! ## The steps that handle no message -/

namespace ManagerState

variable {s : ManagerState X} {d d' : DownstreamId}

theorem channel?_setFlags (std custom : Bool) (kind : MinerChannelKind) (id : ChannelId) :
    (s.setFlags d std custom).channel? d' kind id = s.channel? d' kind id := by
  rw [channel?, channel?, downstream?_setFlags]
  cases s.downstream? d' with
  | none => rfl
  | some downstream => by_cases hd : d' = d <;> simp [hd]

theorem groupIds?_setFlags (std custom : Bool) :
    (s.setFlags d std custom).groupIds? d' = s.groupIds? d' := by
  rw [groupIds?, groupIds?, downstream?_setFlags, Option.map_map]
  congr 1
  funext downstream
  by_cases hd : d' = d <;> simp [hd]

theorem channel?_registerDownstream (group : X.GroupChannel) (hd : s.downstream? d = none)
    (kind : MinerChannelKind) (id : ChannelId) :
    (s.registerDownstream d group).channel? d' kind id = s.channel? d' kind id := by
  rw [channel?, channel?, downstream?_registerDownstream]
  by_cases hd' : d' = d
  · subst hd'
    rw [if_pos rfl, hd]
    cases kind <;> rfl
  · rw [if_neg hd']

theorem groupIds?_registerDownstream (group : X.GroupChannel) :
    (s.registerDownstream d group).groupIds? d' =
      if d' = d then some (X.groupChannelId group, X.groupChannelIds group)
      else s.groupIds? d' := by
  rw [groupIds?, groupIds?, downstream?_registerDownstream]
  split <;> rfl

theorem channel?_removeDownstream (kind : MinerChannelKind) (id : ChannelId) :
    (s.removeDownstream d).channel? d' kind id =
      if d' = d then none else s.channel? d' kind id := by
  rw [channel?, channel?, downstream?_removeDownstream]
  split <;> rfl

theorem groupIds?_removeDownstream : (s.removeDownstream d).groupIds? d' =
    if d' = d then none else s.groupIds? d' := by
  rw [groupIds?, groupIds?, downstream?_removeDownstream]
  split <;> rfl

theorem vardiff_removeDownstream (key : DownstreamId × ChannelId) :
    (s.removeDownstream d).data.vardiff.lookup key =
      if key.1 = d then none else s.data.vardiff.lookup key := by
  rw [removeDownstream, AssocMap.lookup_retain]
  by_cases hd : key.1 = d
  · simp [hd]
  · rw [if_neg hd]
    cases s.data.vardiff.lookup key <;> simp [hd]

/-- A removed connection has no controllers left. -/
theorem Covered.removeDownstream (h : s.Covered) (d : DownstreamId) :
    (s.removeDownstream d).Covered := by
  intro d' id
  simp only [vardiff_removeDownstream, channel?_removeDownstream]
  by_cases hd : d' = d
  · simp [hd]
  · simpa [hd] using h d' id

theorem Covered.setFlags (h : s.Covered) (std custom : Bool) :
    (s.setFlags d std custom).Covered := by
  intro d' id
  simp only [channel?_setFlags]
  exact h d' id

theorem Covered.registerDownstream (h : s.Covered) (group : X.GroupChannel)
    (hd : s.downstream? d = none) : (s.registerDownstream d group).Covered := by
  intro d' id
  simp only [channel?_registerDownstream group hd]
  exact h d' id

/-- What can be told from the channels and the groups. -/
theorem HasId.of_eq {s' : ManagerState X} {id : ChannelId}
    (h : s'.HasId d id) (hchannel : ∀ kind, s'.channel? d kind id = s.channel? d kind id)
    (hgroup : s'.groupIds? d = s.groupIds? d) : s.HasId d id := by
  unfold HasId at h ⊢
  simp only [hchannel, hgroup] at h
  exact h

end ManagerState

namespace Server

variable [Double F] {cfg : ManagerConfig F} {lib : AddressLib Addr} {s s' : Server X}
  {a : ServerAction X}

/-- A step that handles no message sends none, gives no connection an id, and leaves the
tasks of the connections where they were or further. -/
structure SendsNothing (s s' : Server X) : Prop where
  sent : s'.sent = []
  hasId : ∀ d id, s'.manager.HasId d id → s.manager.HasId d id
  covered : s.manager.Covered → s'.manager.Covered
  phase : ∀ d, (s.phase.lookup d).isSome → (s'.phase.lookup d).isSome
  registered : ∀ d, (s'.manager.downstream? d).isSome →
    (s.manager.downstream? d).isSome ∨ (s'.phase.lookup d).isSome

omit [Double F] in
theorem isSome_lookup_insert {K V : Type} [DecidableEq K] {m : AssocMap K V} {k k' : K} {v : V}
    (h : (m.lookup k').isSome) : ((m.insert k v).lookup k').isSome := by
  rw [AssocMap.lookup_insert_if]
  split
  · rfl
  · exact h

omit [Double F] in
/-- A removed connection takes its ids with it. -/
theorem hasId_of_removeDownstream {s : ManagerState X} {d d' : DownstreamId} {id : ChannelId}
    (h : (s.removeDownstream d).HasId d' id) : s.HasId d' id := by
  by_cases hd : d' = d
  · subst hd
    rcases h with ⟨kind, hc⟩ | ⟨ids, hids, -⟩
    · rw [ManagerState.channel?_removeDownstream, if_pos rfl] at hc
      cases hc
    · rw [ManagerState.groupIds?_removeDownstream, if_pos rfl] at hids
      cases hids
  · refine h.of_eq (fun kind => ?_) ?_
    · rw [ManagerState.channel?_removeDownstream, if_neg hd]
    · rw [ManagerState.groupIds?_removeDownstream, if_neg hd]

omit [Double F] in
theorem isSome_downstream?_of_removeDownstream {s : ManagerState X} {d d' : DownstreamId}
    (h : ((s.removeDownstream d).downstream? d').isSome) : (s.downstream? d').isSome := by
  rw [ManagerState.downstream?_removeDownstream] at h
  split at h
  · cases h
  · exact h

/-- **Bookkeeping sends nothing** and gives no id, if a new connection has no channels yet. -/
theorem sendsNothing_of_next (hids : s.IdsInOrder)
    (haccepting : ∀ d group, s.accepting.lookup d = some group → X.groupChannelIds group = [])
    (h : next cfg lib s a = some s') (ha : a.isHandler = false) : SendsNothing s s' := by
  cases bookkeepingStep_of_next h ha with
  | bootstrap _ | forward _ | managerClosesSessions _ | poll =>
    exact ⟨rfl, fun _ _ hid => hid, fun hc => hc, fun _ hd => hd, fun _ hd => .inl hd⟩
  | @register d group hgroup =>
    have hnone := (hids.accepting d (by rw [hgroup]; rfl)).1
    refine ⟨rfl, fun d' id hid => ?_, fun hc => hc.registerDownstream group hnone,
      fun d' hd' => isSome_lookup_insert hd', fun d' hd' => ?_⟩
    · rcases hid with ⟨kind, hc⟩ | ⟨ids, hgroupIds, hne⟩
      · rw [silently, ManagerState.channel?_registerDownstream _ hnone] at hc
        exact .inl ⟨kind, hc⟩
      · rw [silently, ManagerState.groupIds?_registerDownstream] at hgroupIds
        split at hgroupIds
        · rw [haccepting d group hgroup] at hgroupIds
          cases hgroupIds
          exact absurd rfl hne
        · exact .inr ⟨ids, hgroupIds, hne⟩
    · rw [silently, ManagerState.downstream?_registerDownstream] at hd'
      split at hd'
      · rename_i heq
        rw [heq]
        right
        simp
      · exact .inl hd'
  | @setupConnection d std custom _ =>
    refine ⟨rfl, fun d' id hid => ?_, fun hc => hc.setFlags std custom,
      fun d' hd' => isSome_lookup_insert hd', fun d' hd' => .inl ?_⟩
    · exact hid.of_eq (fun kind => ManagerState.channel?_setFlags std custom kind id)
        (ManagerState.groupIds?_setFlags std custom)
    · rw [silently, ManagerState.downstream?_setFlags, Option.isSome_map] at hd'
      exact hd'
  | managerRemoves _ =>
    exact ⟨rfl, fun d' id hid => hasId_of_removeDownstream hid,
      fun hc => hc.removeDownstream _, fun _ hd => hd,
      fun d' hd' => .inl (isSome_downstream?_of_removeDownstream hd')⟩
  | connectionClosesSessions _ =>
    exact ⟨rfl, fun _ _ hid => hid, fun hc => hc, fun d' hd' => isSome_lookup_insert hd',
      fun _ hd => .inl hd⟩
  | connectionRemoves _ =>
    exact ⟨rfl, fun d' id hid => hasId_of_removeDownstream hid,
      fun hc => hc.removeDownstream _, fun d' hd' => isSome_lookup_insert hd',
      fun d' hd' => .inl (isSome_downstream?_of_removeDownstream hd')⟩

omit [Double F] in
theorem eq_ok_of_toOption {ε α : Type} {x : Except ε α} {a : α} (h : x.toOption = some a) :
    x = .ok a := by
  cases x with
  | error e => cases h
  | ok b => exact congrArg Except.ok (Option.some.inj h)

omit [Double F] in
/-- The group of a new connection has no channels. -/
theorem groupChannelIds_of_bootstrapGroupChannel (hG : X.GroupLaws) {s : ManagerState X}
    {id : ChannelId} {group : X.GroupChannel}
    (h : s.bootstrapGroupChannel cfg id = some group) : X.groupChannelIds group = [] := by
  simp only [ManagerState.bootstrapGroupChannel, Option.bind_eq_bind,
    Option.bind_eq_some_iff] at h
  obtain ⟨template, -, prev, -, new, hnew, given, hgiven, hset⟩ := h
  have hnew := (hG.newGroupForPool _ _ _ _ _ (eq_ok_of_toOption hnew)).2
  have hgiven := (hG.groupOnNewTemplate _ _ _ _ (eq_ok_of_toOption hgiven)).2
  have hset := (hG.groupOnSetNewPrevHash _ _ _ (eq_ok_of_toOption hset)).2
  rw [hset, hgiven, hnew]

/-- The connections whose message the next step handles, if it asks to open a channel. -/
def Asks (s : Server X) (a : ServerAction X) (d : DownstreamId) : Prop :=
  ∃ now message queue, a = .handleMining now ∧ s.queue = (d, message) :: queue ∧
    message.openRequest.isSome

/-- The connection whose message the next step handles. -/
def Sends (s : Server X) (a : ServerAction X) (d : DownstreamId) : Prop :=
  ∃ now message queue, a = .handleMining now ∧ s.queue = (d, message) :: queue

/-- What a handler does to the channels. -/
def ChannelStep (s : Server X) (a : ServerAction X) (s' : Server X) : Prop :=
  Inventory (Asks s a) (Sends s a) s.manager s'.manager s'.sent ∨
    Provided s.manager s'.manager s'.sent

/-- A mining message does to the channels what an inventory says. -/
theorem inventory_of_handleMining (hG : X.GroupLaws) (hcovered : s.manager.Covered) {now : UInt64}
    (h : next cfg lib s (.handleMining now) = some s') :
    Inventory (Asks s (.handleMining now)) (Sends s (.handleMining now)) s.manager s'.manager
      s'.sent := by
  simp only [next] at h
  split at h
  · rename_i d message queue hidle hqueue
    have hhandled := handled_of_afterHandler h
    rw [hhandled.sent]
    refine (inventory_handleMiningMessage hG hcovered _ _ hhandled.state).imp ?_ ?_
    · rintro _ ⟨rfl, hopen⟩
      exact ⟨now, message, queue, rfl, hqueue, hopen⟩
    · rintro _ rfl
      exact ⟨now, message, queue, rfl, hqueue⟩
  · cases h

/-- A handler does to the channels what an inventory says, or provides jobs. -/
theorem inventory_of_handler (hX : X.Laws) (hG : X.GroupLaws) (hcovered : s.manager.Covered)
    (h : next cfg lib s a = some s') (ha : a.isHandler = true) : ChannelStep s a s' := by
  cases a with
  | handleMining now => exact .inl (inventory_of_handleMining hG hcovered h)
  | newTemplate template orders =>
    simp only [next] at h
    split at h
    · have hhandled := handled_of_afterHandler h
      rw [ChannelStep, hhandled.sent]
      exact .inr (provided_handleNewTemplate hX hG orders hhandled.state)
    · cases h
  | setNewPrevHash message orders =>
    simp only [next] at h
    split at h
    · have hhandled := handled_of_afterHandler h
      rw [ChannelStep, hhandled.sent]
      exact .inr (provided_handleSetNewPrevHash hG orders hhandled.state)
    · cases h
  | _ => cases ha

omit [Double F] in
/-- Messages of a handler go to registered connections or the one whose message is handled,
and none closes a channel. -/
theorem ChannelStep.fits (h : ChannelStep s a s') {d : DownstreamId} {m : Mining X}
    (hm : .downstream d m ∈ s'.sent) :
    ((s.manager.downstream? d).isSome ∨ Sends s a d) ∧ m.isCloseChannel = false := by
  rcases h with hstep | hstep
  · exact hstep.fits hm
  · exact ⟨.inl (hstep.sent d m hm).1, (hstep.sent d m hm).2.2⟩

omit [Double F] in
theorem ChannelStep.covered (h : ChannelStep s a s') (hcovered : s.manager.Covered) :
    s'.manager.Covered := by
  rcases h with hstep | hstep
  · exact hcovered.inventory hstep
  · exact hcovered.kept hstep.toKeepsInventory

end Server

/-! ## Runs -/

namespace PoolServer

variable {s s' : PoolServer X}

/-- What holds between the tasks. -/
structure Consistent (s : PoolServer X) : Prop where
  ids : s.server.IdsInOrder
  registered : ∀ d, (s.server.manager.downstream? d).isSome → (s.server.phase.lookup d).isSome
  covered : s.server.manager.Covered
  accepting : ∀ d group, s.server.accepting.lookup d = some group → X.groupChannelIds group = []
  outbox : ∀ d m, .downstream d m ∈ s.outbox →
    (s.server.phase.lookup d).isSome ∧ m.isCloseChannel = false
  queue : ∀ e ∈ s.server.queue, (s.server.phase.lookup e.1).isSome
  told : ∀ d channel, s.downstreamSender.lookup d = some channel →
    ∀ m ∈ channel.messages, m.isCloseChannel = false

theorem Started.consistent (h : Started s) : Consistent s where
  ids := h.server.idsInOrder
  registered d hd := by
    rw [h.server.downstream?_eq_none] at hd
    cases hd
  covered d id := by
    rw [h.vardiff]
    constructor
    · intro hv
      cases hv
    · rintro ⟨kind, hc⟩
      rw [ManagerState.channel?, h.server.downstream?_eq_none] at hc
      cases hc
  accepting d group hd := by
    rw [h.server.accepting] at hd
    cases hd
  outbox d m hm := by
    rw [h.outbox] at hm
    cases hm
  queue e he := by
    rw [h.server.queue] at he
    cases he
  told d channel hd := by
    rw [h.downstreamSender] at hd
    cases hd

/-- No message waits for a connection that is not registered yet. -/
theorem Consistent.sentTo_outbox (h : Consistent s) {d : DownstreamId}
    (hd : s.server.phase.lookup d = none) : sentTo d s.outbox = [] := by
  refine List.eq_nil_iff_forall_not_mem.2 fun m hm => ?_
  have hsome := (h.outbox d m (mem_sentTo.1 hm)).1
  rw [hd] at hsome
  cases hsome

/-- A step of the manager that sends messages when everything is forwarded. -/
theorem Consistent.of_messages {server : Server X} (messages : List (RouteMessageTo X))
    (h : Consistent s) (hids : server.IdsInOrder) (hkept : Server.Kept s.server server)
    (hcovered : server.manager.Covered) (hqueue : ∀ e ∈ server.queue, e ∈ s.server.queue)
    (hfits : ∀ d m, .downstream d m ∈ messages →
      (s.server.phase.lookup d).isSome ∧ m.isCloseChannel = false)
    (hs' : s'.server = server) (hsender : s'.downstreamSender = s.downstreamSender)
    (houtbox : s'.outbox = messages) : Consistent s' := by
  subst hs'
  refine ⟨hids, fun d hd => ?_, hcovered, fun d group hd => ?_, fun d m hm => ?_,
    fun e he => ?_, fun d channel hd => ?_⟩
  · rw [hkept.downstream] at hd
    rw [hkept.phase]
    exact h.registered d hd
  · rw [hkept.accepting] at hd
    exact h.accepting d group hd
  · rw [houtbox] at hm
    rw [hkept.phase]
    exact hfits d m hm
  · rw [hkept.phase]
    exact h.queue e (hqueue e he)
  · rw [hsender] at hd
    exact h.told d channel hd

/-- A step of the server that sends nothing. -/
theorem Consistent.of_sendsNothing {server : Server X} (h : Consistent s) (hids : server.IdsInOrder)
    (hsilent : Server.SendsNothing s.server server)
    (haccepting : ∀ d group, server.accepting.lookup d = some group →
      X.groupChannelIds group = [])
    (hqueue : ∀ e ∈ server.queue, e ∈ s.server.queue ∨
      s.server.phase.lookup e.1 = some .running)
    (hs' : s'.server = server) (hsender : s'.downstreamSender = s.downstreamSender)
    (houtbox : s'.outbox = s.outbox) : Consistent s' := by
  subst hs'
  refine ⟨hids, fun d hd => ?_, hsilent.covered h.covered, haccepting, fun d m hm => ?_,
    fun e he => hsilent.phase e.1 ?_, fun d channel hd => ?_⟩
  · rcases hsilent.registered d hd with hold | hphase
    · exact hsilent.phase d (h.registered d hold)
    · exact hphase
  · rw [houtbox] at hm
    exact (h.outbox d m hm).imp_left (hsilent.phase d)
  · rcases hqueue e he with hold | hrunning
    · exact h.queue e hold
    · rw [hrunning]
      rfl
  · rw [hsender] at hd
    exact h.told d channel hd

/-- A step that changes only the channels of the connections. -/
theorem Consistent.of_sender (h : Consistent s) (hs' : s'.server = s.server)
    (houtbox : ∀ msg ∈ s'.outbox, msg ∈ s.outbox)
    (hsender : ∀ d channel', s'.downstreamSender.lookup d = some channel' →
      ∀ m ∈ channel'.messages, m.isCloseChannel = false) : Consistent s' where
  ids := hs' ▸ h.ids
  registered := hs' ▸ h.registered
  covered := hs' ▸ h.covered
  accepting := hs' ▸ h.accepting
  outbox d m hm := hs' ▸ h.outbox d m (houtbox _ hm)
  queue := hs' ▸ h.queue
  told := hsender

/-- Forwarding a message leaves the server alone. -/
theorem server_forward (msg : RouteMessageTo X) : (s.forward msg).server = s.server := by
  cases msg <;> rfl

theorem outbox_forward (msg : RouteMessageTo X) : (s.forward msg).outbox = s.outbox := by
  cases msg <;> rfl

/-- A forwarded message is put into the channel of its connection, if that is open. -/
theorem downstreamSender_forward {msg : RouteMessageTo X} {d : DownstreamId}
    {channel' : DownstreamChannel X}
    (h : (s.forward msg).downstreamSender.lookup d = some channel') :
    ∃ channel, s.downstreamSender.lookup d = some channel ∧
      channel'.isOpen = channel.isOpen ∧ channel'.messages =
        if channel.isOpen then channel.messages ++ sentTo d [msg] else channel.messages := by
  cases msg with
  | templateProvider solution =>
    refine ⟨channel', h, rfl, ?_⟩
    simp [sentTo]
  | downstream d' m =>
    simp only [forward, AssocMap.lookup_modify, Option.map_eq_some_iff] at h
    obtain ⟨channel, hd, rfl⟩ := h
    refine ⟨channel, hd, ?_⟩
    by_cases heq : d = d'
    · subst heq
      cases hopen : channel.isOpen <;> simp [sentTo, hopen]
    · have hnone : sentTo d [RouteMessageTo.downstream d' m] = [] := by
        simp [sentTo, Ne.symm heq]
      rw [if_neg heq, hnone, List.append_nil, ite_self]
      exact ⟨rfl, rfl⟩

theorem afterServer_spec (server : Server X) (a : ServerAction X) :
    (s.afterServer server a).server = server ∧
      (s.afterServer server a).outbox = s.outbox ++ server.sent ∧
      (s.afterServer server a).downstreamSender = s.downstreamSender := by
  cases a <;> exact ⟨rfl, rfl, rfl⟩

variable [Double F] {cfg : ManagerConfig F} {lib : AddressLib Addr} {V : VardiffLib X}
  {a : PoolServerAction X}

omit [Double F] in
/-- The manager handles a message only when it is idle. -/
theorem idle_of_allows {a : ServerAction X} (h : s.Allows a) (ha : a.isHandler = true) :
    s.Idle := by
  cases a with
  | handleMining _ => exact h.1
  | newTemplate _ _ | setNewPrevHash _ _ => exact h
  | _ => cases ha

omit [Double F] in
/-- The message that is handled comes from a connection with a task. -/
theorem Consistent.phase_of_sends (h : Consistent s) {a : ServerAction X} {d : DownstreamId}
    (hsends : s.server.Sends a d) : (s.server.phase.lookup d).isSome := by
  obtain ⟨now, message, queue, -, hqueue⟩ := hsends
  refine h.queue (d, message) ?_
  rw [hqueue]
  exact List.mem_cons_self

omit [Double F] in
/-- What a handler says to a connection. -/
theorem Consistent.fits (h : Consistent s) {a : ServerAction X} {server : Server X}
    (hstep : Server.ChannelStep s.server a server) {d : DownstreamId} {m : Mining X}
    (hm : .downstream d m ∈ server.sent) :
    (s.server.phase.lookup d).isSome ∧ m.isCloseChannel = false := by
  obtain ⟨hd | hsends, hclose⟩ := hstep.fits hm
  · exact ⟨h.registered d hd, hclose⟩
  · exact ⟨h.phase_of_sends hsends, hclose⟩

/-- The groups of accepted connections have no channels. -/
theorem accepting_of_next (hG : X.GroupLaws) (h : Consistent s) {a : ServerAction X}
    {server : Server X} (hserver : s.server.next cfg lib a = some server)
    (ha : a.isHandler = false) (d : DownstreamId) (group : X.GroupChannel)
    (hd : server.accepting.lookup d = some group) : X.groupChannelIds group = [] := by
  rcases (Server.bookkeeping_of_next hserver ha).accepting d group hd with hold | hnew
  · exact h.accepting d group hold
  · exact Server.groupChannelIds_of_bootstrapGroupChannel hG hnew

theorem Consistent.server (hX : X.Laws) (hG : X.GroupLaws) (h : Consistent s)
    {a : ServerAction X} {server : Server X} (hallows : s.Allows a)
    (hserver : s.server.next cfg lib a = some server) : Consistent (s.afterServer server a) := by
  obtain ⟨hs', houtbox, hsender⟩ := afterServer_spec (s := s) server a
  have hids := h.ids.next hX hserver
  cases ha : a.isHandler with
  | true =>
    have hempty : s.outbox = [] := List.isEmpty_iff.1 (idle_of_allows hallows ha).2.1
    rw [hempty, List.nil_append] at houtbox
    have hstep := Server.inventory_of_handler hX hG h.covered hserver ha
    exact h.of_messages server.sent hids (Server.kept_of_handler hX hserver ha)
      (hstep.covered h.covered) (fun _ he => Server.mem_queue_of_handler hserver ha he)
      (fun _ _ hm => h.fits hstep hm) hs' hsender houtbox
  | false =>
    have hsilent := Server.sendsNothing_of_next h.ids h.accepting hserver ha
    rw [hsilent.sent, List.append_nil] at houtbox
    exact h.of_sendsNothing hids hsilent (accepting_of_next hG h hserver ha)
      (Server.bookkeeping_of_next hserver ha).queue hs' hsender houtbox

omit [Double F] in
/-- The vardiff cycle sends its messages when everything is forwarded. -/
theorem Consistent.vardiffCycle (h : Consistent s) (hidle : s.Idle)
    (order : IterOrder (DownstreamId × ChannelId)) :
    Consistent { s with
      server := s.server.silently (runVardiff V order s.server.manager).1
      outbox := s.outbox ++ (runVardiff V order s.server.manager).2 } := by
  have hsame := sameButChannels_runVardiff (V := V) order s.server.manager
  have hempty : s.outbox = [] := List.isEmpty_iff.1 hidle.2.1
  have hdown : ∀ d, ((runVardiff V order s.server.manager).1.downstream? d).isSome =
      (s.server.manager.downstream? d).isSome := by
    intro d
    have hd := congrArg Option.isSome (hsame.downstream d)
    rw [Option.isSome_map, Option.isSome_map] at hd
    exact hd
  have hkept : Server.Kept s.server
      (s.server.silently (runVardiff V order s.server.manager).1) :=
    ⟨hdown, hsame.downstreamIdFactory, rfl, rfl⟩
  have hids : (s.server.silently (runVardiff V order s.server.manager).1).IdsInOrder := by
    refine h.ids.of_downstream (fun d hd => ?_) hsame.downstreamIdFactory rfl rfl
    rw [← Option.not_isSome_iff_eq_none] at hd ⊢
    exact fun hsome => hd ((hdown d).symm.trans hsome)
  have hstep := inventory_runVardiff V order s.server.manager (fun _ => False) fun _ => False
  refine h.of_messages (runVardiff V order s.server.manager).2 hids hkept
    (h.covered.inventory hstep) (fun _ he => he) (fun d m hm => ?_) rfl rfl ?_
  · obtain ⟨hd | hnone, hclose⟩ := hstep.fits hm
    · exact ⟨h.registered d hd, hclose⟩
    · exact hnone.elim
  · rw [hempty, List.nil_append]

theorem Consistent.next (hX : X.Laws) (hG : X.GroupLaws) (h : Consistent s)
    (hs : next cfg lib V s a = some s') : Consistent s' := by
  cases a with
  | server a =>
    simp only [PoolServer.next] at hs
    split at hs
    · rename_i hallows
      obtain ⟨server, hserver, rfl⟩ := Option.map_eq_some_iff.1 hs
      exact h.server hX hG hallows hserver
    · cases hs
  | insertSender d =>
    simp only [PoolServer.next] at hs
    split at hs
    · rename_i hnew
      cases hs
      refine h.of_sender rfl (fun _ hm => hm) fun d' channel' hd' => ?_
      rw [AssocMap.lookup_insert_if] at hd'
      split at hd'
      · cases hd'
        exact fun _ hm => absurd hm List.not_mem_nil
      · exact h.told d' channel' hd'
    · cases hs
  | closeReceiver d =>
    simp only [PoolServer.next] at hs
    split at hs
    · cases hs
      refine h.of_sender rfl (fun _ hm => hm) fun d' channel' hd' => ?_
      rw [AssocMap.lookup_modify, Option.map_eq_some_iff] at hd'
      obtain ⟨channel, hd, rfl⟩ := hd'
      split <;> exact h.told d' channel hd
    · cases hs
  | runVardiff order =>
    simp only [PoolServer.next] at hs
    split at hs
    · rename_i hidle
      cases hs
      exact h.vardiffCycle hidle order
    · cases hs
  | forward =>
    simp only [PoolServer.next] at hs
    split at hs
    · cases hs
    · rename_i msg outbox houtbox
      cases hs
      refine h.of_sender (server_forward _) (fun m hm => ?_) fun d channel' hd => ?_
      · rw [outbox_forward] at hm
        rw [houtbox]
        exact List.mem_cons_of_mem _ hm
      · obtain ⟨channel, hd, hopen, hmessages⟩ := downstreamSender_forward hd
        rw [hmessages]
        cases hisOpen : channel.isOpen with
        | false => exact h.told d channel hd
        | true =>
          intro m hm
          rcases List.mem_append.1 hm with hm | hm
          · exact h.told d channel hd m hm
          · refine (h.outbox d m ?_).2
            rw [houtbox]
            exact List.mem_cons.2 (.inl (List.mem_singleton.1 (mem_sentTo.1 hm)))
  | removeSender d =>
    simp only [PoolServer.next] at hs
    split at hs
    · cases hs
      refine h.of_sender rfl (fun _ hm => hm) fun d' channel' hd' => ?_
      rw [AssocMap.lookup_erase_if] at hd'
      split at hd'
      · cases hd'
      · exact h.told d' channel' hd'
    · cases hs
  | managerRemovesSender =>
    simp only [PoolServer.next] at hs
    split at hs
    · cases hs
    · cases hs
      refine h.of_sender rfl (fun _ hm => hm) fun d' channel' hd' => ?_
      rw [AssocMap.lookup_erase_if] at hd'
      split at hd'
      · cases hd'
      · exact h.told d' channel' hd'

/-! ## A run over the table of channels -/

/-- A vardiff library that always proposes the same hashrate. -/
def tableVardiff : VardiffLib tableChannels where
  getNominalHashrate _ := .num 1
  getSharesPerMinute _ := .num 6
  tryVardiff vardiff _ _ _ := (.ok (some (.num 2)), vardiff)

/-- The table server with no connection yet. -/
def tablePool : PoolServer tableChannels := ⟨tableServer, ∅, [], [], [], none⟩

theorem tablePool_started : tablePool.Started := ⟨tableServer_started, rfl, rfl, rfl, rfl, rfl⟩

/-- The first connection asks for two channels.  The vardiff cycle runs between the two, and
the receiver closes while the messages about the second are forwarded. -/
def aliceOpens : List (PoolServerAction tableChannels) :=
  [.server .bootstrap, .insertSender 1, .server (.register 1),
    .server (.setupConnection 1 false false),
    .server (.forward 1 (openStandard aliceAddress (.num 1))),
    .server (.forward 1 (openStandard aliceAddress (.num 1))),
    .server (.handleMining 0), .forward, .forward, .forward, .runVardiff default, .forward,
    .server (.handleMining 1), .forward, .closeReceiver 1, .forward]

/-- The state of the table server after some actions. -/
def tableAfter (actions : List (PoolServerAction tableChannels)) : PoolServer tableChannels :=
  (actions.foldlM (PoolServer.next tableConfig tableLib tableVardiff) tablePool).getD tablePool

/-- The transitions of some actions. -/
def tableTrace (actions : List (PoolServerAction tableChannels)) :
    List (Transition (PoolServer tableChannels) (PoolServerAction tableChannels)) :=
  trace (PoolServer.next tableConfig tableLib tableVardiff) tablePool actions

/-- Enabled actions make a run of the table server. -/
theorem tableRun {s : PoolServer tableChannels} (actions : List (PoolServerAction tableChannels))
    (h : actions.foldlM (PoolServer.next tableConfig tableLib tableVardiff) tablePool = some s) :
    Run Started (Computes (PoolServer.next tableConfig tableLib tableVardiff))
      (tableTrace actions) s :=
  .ofActions tablePool_started actions h

end PoolServer

end CanaryMining
