import CanaryMining.Downstream.Agreement
import CanaryMining.Downstream.Ending
import CanaryMining.Manager.Server

/-!
# The connections that the server serves

The model of the server says of a connection only in which order it acts: it is set up, it
forwards messages, and it removes itself.  Here the task of a connection runs beside the
server, whose other connections and whose manager do what they like in between.  Whatever
the task does, the server allows it; so what holds in every run of the server holds with the
tasks that the connections really have.

## Main definitions

* `DownstreamTask.serverPhase` — the phase of the connection, as the server sees it.
* `DownstreamTask.plays` — the steps of the server that a step of the task is.
* `ServedTask`, `ServedTask.next` — the task beside the server.

**Main result:** `ServedTask.allowed_of_run`.
-/

namespace CanaryMining

variable {F : Type} {X : ChannelsSv2 F} {Addr : Type} {L : FrameLib} {cfg : ExtensionConfig}
  {d : DownstreamId} {decode : L.Mining → MiningMessage X}

/-! ## The steps of one connection -/

/-- Whether a step of the server is one of a connection, or registers it. -/
def ServerAction.isOf (d : DownstreamId) : ServerAction X → Bool
  | .register d' | .setupConnection d' _ _ | .forward d' _ | .connectionClosesSessions d' _
  | .connectionRemoves d' => decide (d' = d)
  | _ => false

theorem Server.phase_of_afterHandler {s s' : Server X} {outcome : Outcome X}
    (h : s.afterHandler outcome = some s') : s'.phase = s.phase :=
  (handled_of_afterHandler h).phase

/-- Others leave the phase of a connection alone. -/
theorem Server.lookup_phase_of_next [Double F] {mcfg : ManagerConfig F} {lib : AddressLib Addr}
    {s s' : Server X} {a : ServerAction X} (h : s.next mcfg lib a = some s')
    (ha : a.isOf d = false) : s'.phase.lookup d = s.phase.lookup d := by
  have hinsert : ∀ {d' : DownstreamId} {p : DownstreamPhase}, decide (d' = d) = false →
      (s.phase.insert d' p).lookup d = s.phase.lookup d := by
    intro d' p hne
    rw [AssocMap.lookup_insert_if, if_neg fun heq => of_decide_eq_false hne heq.symm]
  cases a with
  | bootstrap =>
    simp only [next] at h
    split at h
    · cases h
    · cases h
      rfl
  | register d' =>
    simp only [next] at h
    split at h
    · cases h
    · cases h
      exact hinsert ha
  | setupConnection d' | connectionClosesSessions d' | connectionRemoves d' =>
    simp only [next] at h
    split at h
    · cases h
      exact hinsert ha
    · cases h
  | forward d' =>
    simp only [next] at h
    split at h
    · cases h
      rfl
    · cases h
  | handleMining now =>
    simp only [next] at h
    split at h
    · rw [phase_of_afterHandler h]
    · cases h
  | newTemplate template orders | setNewPrevHash message orders =>
    simp only [next] at h
    split at h
    · rw [phase_of_afterHandler h]
    · cases h
  | managerClosesSessions now | managerRemoves =>
    simp only [next] at h
    split at h
    · cases h
      rfl
    · cases h
  | poll now order =>
    cases h
    rfl

namespace DownstreamTask

variable {c c' : DownstreamTask L} {a : TaskAction L} {handled : List L.Frame}
  {relayed : List (L.Mining × Option (List L.Tlv))}

/-- The phase of the connection, as the server sees it. -/
def serverPhase (c : DownstreamTask L) : DownstreamPhase :=
  match c.phase with
  | .settingUp | .setupFailed _ | .setupReported => .setup
  | .selecting _ | .left | .cancelled | .closed => .running
  | .setupDisconnected | .ended => .ended

/-- The steps of the server that a step of the task is: it stores the flags of its peer, it
forwards a message, it calls `remove_downstream`. -/
def plays (d : DownstreamId) (decode : L.Mining → MiningMessage X) (now : UInt64)
    (c c' : DownstreamTask L) : List (ServerAction X) :=
  (if c.phase = .settingUp ∧ c'.phase = .selecting .start then
    [.setupConnection d c'.requiresStandardJobs c'.requiresCustomWork] else []) ++
  ((c'.channelManagerSender.sent.drop c.channelManagerSender.sent.length).map
    fun msg => .forward d (decode msg.1)) ++
  (if c.disconnects < c'.disconnects then
    [.connectionClosesSessions d now, .connectionRemoves d] else [])

/-- A step with which the connection tells the server nothing. -/
theorem plays_eq_nil {now : UInt64} (hphase : c.phase = .settingUp → c'.phase ≠ .selecting .start)
    (hsent : c'.channelManagerSender.sent = c.channelManagerSender.sent)
    (hdisconnects : c'.disconnects = c.disconnects) : plays d decode now c c' = [] := by
  unfold plays
  rw [if_neg fun h => hphase h.1 h.2, hsent, List.drop_length, hdisconnects,
    if_neg (Nat.lt_irrefl _)]
  rfl

theorem plays_setUp {now : UInt64} (hphase : c.phase = .settingUp)
    (hphase' : c'.phase = .selecting .start)
    (hsent : c'.channelManagerSender.sent = c.channelManagerSender.sent)
    (hdisconnects : c'.disconnects = c.disconnects) : plays d decode now c c' =
      [.setupConnection d c'.requiresStandardJobs c'.requiresCustomWork] := by
  unfold plays
  rw [if_pos ⟨hphase, hphase'⟩, hsent, List.drop_length, hdisconnects,
    if_neg (Nat.lt_irrefl _)]
  rfl

theorem plays_forward {now : UInt64} {msg : L.Mining × Option (List L.Tlv)}
    (hphase : c.phase ≠ .settingUp)
    (hsent : c'.channelManagerSender.sent = c.channelManagerSender.sent ++ [msg])
    (hdisconnects : c'.disconnects = c.disconnects) :
    plays d decode now c c' = [.forward d (decode msg.1)] := by
  unfold plays
  rw [if_neg fun h => hphase h.1, hsent, List.drop_left, hdisconnects, if_neg (Nat.lt_irrefl _)]
  rfl

theorem plays_disconnect {now : UInt64} (hphase : c.phase ≠ .settingUp)
    (hsent : c'.channelManagerSender.sent = c.channelManagerSender.sent)
    (hdisconnects : c'.disconnects = c.disconnects + 1) : plays d decode now c c' =
      [.connectionClosesSessions d now, .connectionRemoves d] := by
  unfold plays
  rw [if_neg fun h => hphase h.1, hsent, List.drop_length, hdisconnects,
    if_pos (Nat.lt_succ_self _)]
  rfl

section

variable [Double F] {mcfg : ManagerConfig F} {lib : AddressLib Addr} {s : Server X}
  {now : UInt64}

/-- The server allows what the step of the task is. -/
def Allowed (mcfg : ManagerConfig F) (lib : AddressLib Addr) (d : DownstreamId)
    (decode : L.Mining → MiningMessage X) (now : UInt64) (c c' : DownstreamTask L)
    (s : Server X) : Prop :=
  ∃ s', (plays d decode now c c').foldlM (Server.next mcfg lib) s = some s' ∧
    s'.phase.lookup d = some c'.serverPhase ∧
    s'.queue = s.queue ++
      (c'.channelManagerSender.sent.drop c.channelManagerSender.sent.length).map
        fun msg => (d, decode msg.1)

theorem allowed_of_nil (hplays : plays d decode now c c' = [])
    (hsent : c'.channelManagerSender.sent = c.channelManagerSender.sent)
    (hs : s.phase.lookup d = some c.serverPhase) (hphase : c'.serverPhase = c.serverPhase) :
    Allowed mcfg lib d decode now c c' s := by
  refine ⟨s, ?_, hphase ▸ hs, ?_⟩
  · rw [hplays]
    rfl
  · rw [hsent, List.drop_length, List.map_nil, List.append_nil]

theorem allowed_of_next {b : ServerAction X} {s' : Server X}
    (hplays : plays d decode now c c' = [b]) (hnext : s.next mcfg lib b = some s')
    (hphase : s'.phase.lookup d = some c'.serverPhase)
    (hqueue : s'.queue = s.queue ++
      (c'.channelManagerSender.sent.drop c.channelManagerSender.sent.length).map
        fun msg => (d, decode msg.1)) : Allowed mcfg lib d decode now c c' s := by
  refine ⟨s', ?_, hphase, hqueue⟩
  rw [hplays, List.foldlM_cons, hnext]
  rfl

/-- The server removes the connection when the task calls `on_disconnect`. -/
theorem allowed_disconnect (hphase : c.phase = .setupReported ∨ c.phase = .closed)
    (hphase' : c'.serverPhase = .ended)
    (hsent : c'.channelManagerSender.sent = c.channelManagerSender.sent)
    (hdisconnects : c'.disconnects = c.disconnects + 1)
    (hs : s.phase.lookup d = some c.serverPhase) : Allowed mcfg lib d decode now c c' s := by
  have hne : c.phase ≠ .settingUp := by
    rcases hphase with h | h <;> rw [h] <;> nofun
  have hready : s.phase.lookup d = some .setup ∨ s.phase.lookup d = some .running := by
    rw [hs]
    unfold serverPhase
    rcases hphase with h | h <;> simp [h]
  let closed : Server X := { s.silently (s.manager.closeSessions now d) with
    phase := s.phase.insert d .removing }
  let removed : Server X := { closed.silently (closed.manager.removeDownstream d) with
    phase := closed.phase.insert d .ended }
  have hclosed : s.next mcfg lib (.connectionClosesSessions d now) = some closed := if_pos hready
  have hremoved : closed.next mcfg lib (.connectionRemoves d) = some removed :=
    if_pos ((AssocMap.lookup_insert_if _ _ _ _).trans (if_pos rfl))
  refine ⟨removed, ?_, ?_, ?_⟩
  · rw [plays_disconnect hne hsent hdisconnects, List.foldlM_cons, hclosed, Option.bind_eq_bind,
      Option.bind_some, List.foldlM_cons, hremoved]
    rfl
  · rw [hphase']
    exact (AssocMap.lookup_insert_if _ _ _ _).trans (if_pos rfl)
  · rw [hsent, List.drop_length, List.map_nil, List.append_nil]
    rfl

/-- The server stores the flags when the connection is set up. -/
theorem allowed_setUp (hphase : c.phase = .settingUp) (hphase' : c'.phase = .selecting .start)
    (hsent : c'.channelManagerSender.sent = c.channelManagerSender.sent)
    (hdisconnects : c'.disconnects = c.disconnects)
    (hs : s.phase.lookup d = some c.serverPhase) : Allowed mcfg lib d decode now c c' s := by
  have hready : s.phase.lookup d = some .setup := by
    rw [hs, serverPhase, hphase]
  refine allowed_of_next (plays_setUp hphase hphase' hsent hdisconnects) (if_pos hready) ?_ ?_
  · rw [serverPhase, hphase']
    exact (AssocMap.lookup_insert_if _ _ _ _).trans (if_pos rfl)
  · rw [hsent, List.drop_length, List.map_nil, List.append_nil]
    rfl

/-- It queues a message that is forwarded. -/
theorem allowed_forward {msg : L.Mining × Option (List L.Tlv)}
    (hphase : c.phase = .selecting .notCancelled) (hphase' : c'.serverPhase = .running)
    (hsent : c'.channelManagerSender.sent = c.channelManagerSender.sent ++ [msg])
    (hdisconnects : c'.disconnects = c.disconnects)
    (hs : s.phase.lookup d = some c.serverPhase) : Allowed mcfg lib d decode now c c' s := by
  have hne : c.phase ≠ .settingUp := by
    rw [hphase]
    nofun
  have hready : s.phase.lookup d = some .running := by
    rw [hs, serverPhase, hphase]
  refine allowed_of_next (plays_forward hne hsent hdisconnects) (if_pos hready) ?_ ?_
  · rw [hphase']
    exact hready
  · rw [hsent, List.drop_left]
    rfl

/-- **The server allows** every step of the task, and sees where it leads. -/
theorem FollowsSession.allowed (h : FollowsSession cfg c handled relayed)
    (hs : s.phase.lookup d = some c.serverPhase) (hstep : TaskStep cfg c a c') :
    Allowed mcfg lib d decode now c c' s := by
  -- A step from one phase to another, both alike for the server.
  have hquiet : ∀ {c' : DownstreamTask L} {p q : TaskPhase}, c.phase = p → c'.phase = q →
      (p = .settingUp → q ≠ .selecting .start) →
      c'.channelManagerSender.sent = c.channelManagerSender.sent →
      c'.disconnects = c.disconnects → c'.serverPhase = c.serverPhase →
      Allowed mcfg lib d decode now c c' s := by
    intro c' p q hp hq hne hsent hdisconnects hphase
    exact allowed_of_nil (plays_eq_nil (fun h => hq ▸ hne (hp ▸ h)) hsent hdisconnects) hsent hs
      hphase
  cases hstep with
  | around ha haround =>
    refine allowed_of_nil (plays_eq_nil (fun h hselecting => ?_) haround.channelManagerSent
      haround.disconnects) haround.channelManagerSent hs ?_
    · rw [haround.phase, h] at hselecting
      cases hselecting
    · unfold serverPhase
      rw [haround.phase]
  | own hown =>
    cases hown with
    | setUp hphase hready =>
      have hsent := h.channelManagerSent_setUp hphase
      have hdisconnects := disconnects_setUp c
      obtain heq | ⟨e, heq⟩ := phase_afterSetup c.setupConnectionWithDownstream
      · exact allowed_setUp hphase heq hsent hdisconnects hs
      · refine hquiet hphase heq (fun _ => nofun) hsent hdisconnects ?_
        rw [serverPhase, serverPhase, heq, hphase]
    | frame hphase hready =>
      have hdisconnects := @disconnects_frame L cfg c
      have hrunning : (afterHandler (c.handleDownstreamMessage cfg)).serverPhase = .running := by
        obtain heq | heq := phase_afterHandler (c.handleDownstreamMessage cfg)
        · rw [serverPhase, heq]
        · rw [serverPhase, heq]
      obtain hsent | ⟨frame, msg, hsent, -⟩ := h.forwards_frame hphase
      · refine hquiet hphase rfl nofun hsent hdisconnects ?_
        rw [hrunning, serverPhase, hphase]
      · exact allowed_forward hphase hrunning hsent hdisconnects hs
    | message hphase hready =>
      have hsent : (afterHandler c.handleChannelManagerMessage).channelManagerSender.sent =
          c.channelManagerSender.sent :=
        (follows_afterHandler _).channelManagerSent.trans (channelManagerSent_relay c)
      refine hquiet hphase rfl nofun hsent (disconnects_message c) ?_
      obtain heq | heq := phase_afterHandler c.handleChannelManagerMessage
      · rw [serverPhase, serverPhase, heq, hphase]
      · rw [serverPhase, serverPhase, heq, hphase]
    | @setupReported e hphase =>
      have hfollows := follows_handleErrorAction (c, none) e .setupReported
      refine hquiet hphase rfl nofun hfollows.channelManagerSent hfollows.disconnects ?_
      rw [serverPhase, serverPhase, hphase]
    | polled hphase =>
      cases hcancelled : c.globalCancelled with
      | true =>
        refine hquiet hphase rfl nofun rfl rfl ?_
        rw [serverPhase, serverPhase, hphase]
        rfl
      | false =>
        refine hquiet hphase rfl nofun rfl rfl ?_
        rw [serverPhase, serverPhase, hphase]
        rfl
    | noFrame hphase hpending | noMessage hphase hpending =>
      refine hquiet hphase rfl nofun rfl rfl ?_
      rw [serverPhase, serverPhase, hphase]
    | cancelled hphase | closed hphase | setupClosed hphase =>
      refine hquiet hphase rfl nofun rfl rfl ?_
      rw [serverPhase, serverPhase, hphase]
    | setupDisconnected hphase => exact allowed_disconnect (.inl hphase) rfl rfl rfl hs
    | disconnected hphase => exact allowed_disconnect (.inr hphase) rfl rfl rfl hs

end

end DownstreamTask

/-! ## The task beside the server -/

/-- A connection's task and the server it belongs to. -/
structure ServedTask (L : FrameLib) (X : ChannelsSv2 F) where
  task : DownstreamTask L
  server : Server X

/-- A step of the task or of those around it, at a time, or a step of the server that is not
one of this connection. -/
inductive ServedAction (L : FrameLib) (X : ChannelsSv2 F)
  | task (a : TaskAction L) (now : UInt64)
  | server (a : ServerAction X)

namespace ServedTask

variable [Double F] {mcfg : ManagerConfig F} {lib : AddressLib Addr} {j : ServedTask L X}

/-- **The steps of the task beside the server.** -/
def next (cfg : ExtensionConfig) (mcfg : ManagerConfig F) (lib : AddressLib Addr)
    (d : DownstreamId) (decode : L.Mining → MiningMessage X) (j : ServedTask L X) :
    ServedAction L X → Option (ServedTask L X)
  | .task a now => do
    let task ← j.task.next cfg a
    let server ← (DownstreamTask.plays d decode now j.task task).foldlM
      (Server.next mcfg lib) j.server
    some ⟨task, server⟩
  | .server a =>
    if a.isOf d then none
    else (j.server.next mcfg lib a).map fun server => { j with server := server }

omit [Double F] in
/-- The server has registered the connection, and its task has not begun. -/
structure Registered (d : DownstreamId) (j : ServedTask L X) : Prop where
  task : j.task.Started
  server : j.server.phase.lookup d = some .setup

omit [Double F] in
/-- The server knows where the task is. -/
structure Known (cfg : ExtensionConfig) (d : DownstreamId) (j : ServedTask L X) : Prop where
  phase : j.server.phase.lookup d = some j.task.serverPhase
  session : ∃ handled relayed, j.task.FollowsSession cfg handled relayed

theorem Known.allowed (h : Known cfg d j) {a : TaskAction L} {task : DownstreamTask L}
    (hnext : j.task.next cfg a = some task) (now : UInt64) :
    DownstreamTask.Allowed mcfg lib d decode now j.task task j.server := by
  obtain ⟨handled, relayed, hsession⟩ := h.session
  exact hsession.allowed h.phase (DownstreamTask.taskStep_of_next hnext)

/-- Every step keeps it so. -/
theorem Known.step {j' : ServedTask L X} {a : ServedAction L X} (h : Known cfg d j)
    (hnext : j.next cfg mcfg lib d decode a = some j') : Known cfg d j' := by
  cases a with
  | task a now =>
    simp only [next, Option.bind_eq_bind, Option.bind_eq_some_iff] at hnext
    obtain ⟨task, htask, server, hserver, heq⟩ := hnext
    cases heq
    have hallowed : DownstreamTask.Allowed mcfg lib d decode now j.task task j.server :=
      h.allowed htask now
    obtain ⟨server', hserver', hphase, -⟩ := hallowed
    rw [hserver] at hserver'
    cases hserver'
    obtain ⟨handled, relayed, hsession⟩ := h.session
    exact ⟨hphase, hsession.step (DownstreamTask.taskStep_of_next htask)⟩
  | server a =>
    simp only [next] at hnext
    split at hnext
    · cases hnext
    · rename_i ha
      rw [Bool.not_eq_true] at ha
      obtain ⟨server, hserver, rfl⟩ := Option.map_eq_some_iff.1 hnext
      exact ⟨(Server.lookup_phase_of_next hserver ha).trans h.phase, h.session⟩

/-- The mining messages of the table ask to close a channel. -/
def tableDecode (msg : DownstreamTask.tableFrames.Mining) : MiningMessage tableChannels :=
  .closeChannel (UInt32.ofNat msg)

/-- The table's pool has registered its first connection. -/
def tableServed : ServedTask DownstreamTask.tableFrames tableChannels where
  task := DownstreamTask.tableTask
  server := ([.bootstrap, .register 1].foldlM (Server.next tableConfig tableLib)
    tableServer).getD tableServer

theorem registered_tableServed : Registered 1 tableServed :=
  ⟨DownstreamTask.started_tableTask, rfl⟩

/-- Another connection is accepted, and the mining message of this one waits. -/
def tableServes : List (ServedAction DownstreamTask.tableFrames tableChannels) :=
  .server .bootstrap :: DownstreamTask.tableWaits.map fun a => .task a 0

/-- The steps of the table's connection beside its pool. -/
def tableNext : ServedTask DownstreamTask.tableFrames tableChannels →
    ServedAction DownstreamTask.tableFrames tableChannels →
    Option (ServedTask DownstreamTask.tableFrames tableChannels) :=
  next DownstreamTask.tableExtensions tableConfig tableLib 1 tableDecode

theorem isSome_tableServes : (tableServes.foldlM tableNext tableServed).isSome := by
  decide +kernel

def tableReached : ServedTask DownstreamTask.tableFrames tableChannels :=
  (tableServes.foldlM tableNext tableServed).get isSome_tableServes

theorem isSome_tableReached :
    (tableReached.task.next DownstreamTask.tableExtensions .task).isSome := by
  decide +kernel

/-- The message is forwarded. -/
def tableForwarded : DownstreamTask DownstreamTask.tableFrames :=
  (tableReached.task.next DownstreamTask.tableExtensions .task).get isSome_tableReached

/-- **The server allows what a connection does**, in every run, whatever its other
connections and its manager do in between: if the task or those around it can take a step,
then the server can take the steps that it is, and queues exactly what the task forwards. -/
theorem allowed_of_run {ts : List (Transition (ServedTask L X) (ServedAction L X))}
    (h : Run (Registered d) (Computes (next cfg mcfg lib d decode)) ts j) {a : TaskAction L}
    {task : DownstreamTask L} (hnext : j.task.next cfg a = some task) (now : UInt64) :
    ∃ server, j.next cfg mcfg lib d decode (.task a now) = some ⟨task, server⟩ ∧
      server.phase.lookup d = some task.serverPhase ∧
      server.queue = j.server.queue ++
        (task.channelManagerSender.sent.drop j.task.channelManagerSender.sent.length).map
          fun msg => (d, decode msg.1) := by
  have hknown : Known cfg d j := by
    refine h.invariant (fun j hj => ⟨?_, ?_⟩) fun j a j' hj hs => hj.step hs
    · rw [hj.server, DownstreamTask.serverPhase, hj.task.phase]
    · exact ⟨[], [], DownstreamTask.followsSession_of_started hj.task⟩
  have hallowed : DownstreamTask.Allowed mcfg lib d decode now j.task task j.server :=
    hknown.allowed hnext now
  obtain ⟨server, hserver, hphase, hqueue⟩ := hallowed
  refine ⟨server, ?_, hphase, hqueue⟩
  simp only [next, hnext, Option.bind_eq_bind, Option.bind_some, hserver]

theorem allowed_of_run_table : ∃ j, tableNext tableReached (.task .task 0) = some j ∧
    j.server.phase.lookup 1 = some .running ∧ j.server.queue.map Prod.fst = [1] := by
  have hrun : Run (Registered 1) (Computes tableNext) (trace tableNext tableServed tableServes)
      tableReached :=
    .ofActions registered_tableServed tableServes (Option.some_get isSome_tableServes).symm
  obtain ⟨server, hnext, hlookup, hqueue⟩ :=
    allowed_of_run hrun (Option.some_get isSome_tableReached).symm 0
  have hphase : tableForwarded.serverPhase = .running := by decide +kernel
  have hempty : tableReached.server.queue.length = 0 := by decide +kernel
  have hsent : (tableForwarded.channelManagerSender.sent.drop
      tableReached.task.channelManagerSender.sent.length).length = 1 := by
    decide +kernel
  refine ⟨⟨tableForwarded, server⟩, hnext, hphase ▸ hlookup, ?_⟩
  rw [hqueue, List.eq_nil_of_length_eq_zero hempty, List.nil_append, List.map_map]
  exact List.map_const.trans (congrArg (List.replicate · 1) hsent)

end ServedTask

end CanaryMining
