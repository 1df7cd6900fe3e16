import CanaryMining.Downstream.Session

/-!
# The steps of a connection

The task of a connection moves through its phases; those around it only touch its channels
and its tokens.

## Main definitions

* `DownstreamTask.OwnStep`, `DownstreamTask.TaskStep` — what a step does.
* `DownstreamTask.Idles`, `DownstreamTask.Around` — what the steps of the others keep.
* `DownstreamTask.Going` — the loop takes another turn.
-/

namespace CanaryMining

variable {L : FrameLib} {cfg : ExtensionConfig}

namespace DownstreamTask

variable {c c' : DownstreamTask L} {a : TaskAction L} {r : Handled L}

/-! ## What a step does -/

/-- The steps of the task itself. -/
inductive OwnStep (cfg : ExtensionConfig) (c : DownstreamTask L) : DownstreamTask L → Prop
  | setUp (hphase : c.phase = .settingUp) (hready : isPending c.downstreamReceiver = false) :
      OwnStep cfg c (afterSetup c.setupConnectionWithDownstream)
  | setupReported {e : DownstreamError} (hphase : c.phase = .setupFailed e) :
      OwnStep cfg c { (c.handleErrorAction e).1 with phase := .setupReported }
  | setupDisconnected (hphase : c.phase = .setupReported) :
      OwnStep cfg c { c with disconnects := c.disconnects + 1, phase := .setupDisconnected }
  | setupClosed (hphase : c.phase = .setupDisconnected) :
      OwnStep cfg c { c.close with phase := .ended }
  | polled (hphase : c.phase = .selecting .start) :
      OwnStep cfg c
        { c with phase := if c.globalCancelled then .left else .selecting .notCancelled }
  | noFrame (hphase : c.phase = .selecting .notCancelled)
      (hpending : isPending c.downstreamReceiver = true) :
      OwnStep cfg c { c with phase := .selecting .noFrame }
  | frame (hphase : c.phase = .selecting .notCancelled)
      (hready : isPending c.downstreamReceiver = false) :
      OwnStep cfg c (afterHandler (c.handleDownstreamMessage cfg))
  | noMessage (hphase : c.phase = .selecting .noFrame)
      (hpending : isPending c.channelManagerReceiver = true) :
      OwnStep cfg c { c with phase := .selecting .start }
  | message (hphase : c.phase = .selecting .noFrame)
      (hready : isPending c.channelManagerReceiver = false) :
      OwnStep cfg c (afterHandler c.handleChannelManagerMessage)
  | cancelled (hphase : c.phase = .left) :
      OwnStep cfg c { c with connectionCancelled := true, phase := .cancelled }
  | closed (hphase : c.phase = .cancelled) : OwnStep cfg c { c.close with phase := .closed }
  | disconnected (hphase : c.phase = .closed) :
      OwnStep cfg c { c with disconnects := c.disconnects + 1, phase := .ended }

theorem ownStep_of_step (h : c.step cfg = some c') : OwnStep cfg c c' := by
  unfold step at h
  cases hphase : c.phase with
  | settingUp =>
    simp only [hphase] at h
    split at h
    · cases h
    · rename_i hready
      cases h
      exact .setUp hphase (by simpa using hready)
  | selecting point =>
    cases point with
    | start =>
      simp only [hphase] at h
      cases h
      exact .polled hphase
    | notCancelled =>
      simp only [hphase] at h
      split at h
      · rename_i hpending
        cases h
        exact .noFrame hphase hpending
      · rename_i hready
        cases h
        exact .frame hphase (by simpa using hready)
    | noFrame =>
      simp only [hphase] at h
      split at h
      · rename_i hpending
        cases h
        exact .noMessage hphase hpending
      · rename_i hready
        cases h
        exact .message hphase (by simpa using hready)
  | setupFailed e =>
    simp only [hphase] at h
    cases h
    exact .setupReported hphase
  | setupReported =>
    simp only [hphase] at h
    cases h
    exact .setupDisconnected hphase
  | setupDisconnected =>
    simp only [hphase] at h
    cases h
    exact .setupClosed hphase
  | left =>
    simp only [hphase] at h
    cases h
    exact .cancelled hphase
  | cancelled =>
    simp only [hphase] at h
    cases h
    exact .closed hphase
  | closed =>
    simp only [hphase] at h
    cases h
    exact .disconnected hphase
  | ended =>
    simp only [hphase] at h
    cases h

/-- What all steps keep that handle nothing: what the task knows, has taken and has put
out. -/
structure Idles (c c' : DownstreamTask L) : Prop where
  downstreamReceived : c'.downstreamReceiver.received = c.downstreamReceiver.received
  channelManagerReceived :
    c'.channelManagerReceiver.received = c.channelManagerReceiver.received
  downstreamSent : c'.downstreamSender.sent = c.downstreamSender.sent
  channelManagerSent : c'.channelManagerSender.sent = c.channelManagerSender.sent
  requiresStandardJobs : c'.requiresStandardJobs = c.requiresStandardJobs
  requiresCustomWork : c'.requiresCustomWork = c.requiresCustomWork
  negotiatedExtensions : c'.negotiatedExtensions = c.negotiatedExtensions
  globalCancelled : c.globalCancelled = true → c'.globalCancelled = true

/-- What those around the task leave as it is. -/
structure Around (c c' : DownstreamTask L) : Prop extends Idles c c' where
  phase : c'.phase = c.phase
  disconnects : c'.disconnects = c.disconnects
  /-- Channels are not opened again, and no more waits in a closed one. -/
  downstreamClosed : c.downstreamReceiver.isOpen = false →
    c'.downstreamReceiver.isOpen = false ∧
      c'.downstreamReceiver.waiting.length ≤ c.downstreamReceiver.waiting.length
  channelManagerClosed : c.channelManagerReceiver.isOpen = false →
    c'.channelManagerReceiver.isOpen = false
  senderClosed : c.downstreamSender.isOpen = false → c'.downstreamSender.isOpen = false

/-- The steps of the task, and those of the others. -/
inductive TaskStep (cfg : ExtensionConfig) (c : DownstreamTask L) :
    TaskAction L → DownstreamTask L → Prop
  | own {c' : DownstreamTask L} (h : OwnStep cfg c c') : TaskStep cfg c .task c'
  | around {a : TaskAction L} {c' : DownstreamTask L} (ha : a ≠ .task) (h : Around c c') :
      TaskStep cfg c a c'

theorem around_endReader (c : DownstreamTask L) : Around c c.endReader where
  downstreamReceived := rfl
  channelManagerReceived := rfl
  downstreamSent := rfl
  channelManagerSent := rfl
  requiresStandardJobs := rfl
  requiresCustomWork := rfl
  negotiatedExtensions := rfl
  globalCancelled := id
  phase := rfl
  disconnects := rfl
  downstreamClosed _ := ⟨rfl, Nat.le_refl _⟩
  channelManagerClosed h := h
  senderClosed _ := rfl

/-- **What a step does.** -/
theorem taskStep_of_next (h : c.next cfg a = some c') : TaskStep cfg c a c' := by
  cases a with
  | task => exact .own (ownStep_of_step h)
  | frameArrives frame =>
    refine .around nofun ?_
    simp only [next] at h
    cases hsend : c.downstreamReceiver.send frame with
    | none =>
      rw [hsend] at h
      cases h
      exact around_endReader c
    | some channel =>
      rw [hsend] at h
      cases h
      obtain ⟨hopen, -, hreceived, -⟩ := Channel.of_send hsend
      refine ⟨⟨hreceived, rfl, rfl, rfl, rfl, rfl, rfl, id⟩, rfl, rfl, ?_, id, id⟩
      intro hclosed
      rw [hopen] at hclosed
      cases hclosed
  | readerEnds | writerEnds =>
    cases h
    exact .around nofun (around_endReader c)
  | writerWrites =>
    refine .around nofun ?_
    simp only [next] at h
    cases hrecv : c.downstreamSender.recv with
    | none =>
      rw [hrecv] at h
      cases h
    | some taken =>
      obtain ⟨msg, channel⟩ := taken
      rw [hrecv] at h
      cases h
      obtain ⟨-, -, hsent, hopen⟩ := Channel.of_recv hrecv
      exact ⟨⟨rfl, rfl, hsent, rfl, rfl, rfl, rfl, id⟩, rfl, rfl,
        fun hclosed => ⟨hclosed, Nat.le_refl _⟩, id, hopen.trans⟩
  | managerSends msg tlvFields =>
    refine .around nofun ?_
    simp only [next] at h
    cases hsend : c.channelManagerReceiver.send (msg, tlvFields) with
    | none =>
      rw [hsend] at h
      cases h
    | some channel =>
      rw [hsend] at h
      cases h
      obtain ⟨hopen, -, hreceived, -⟩ := Channel.of_send hsend
      refine ⟨⟨rfl, hreceived, rfl, rfl, rfl, rfl, rfl, id⟩, rfl, rfl,
        fun hclosed => ⟨hclosed, Nat.le_refl _⟩, fun hclosed => ?_, id⟩
      rw [hopen] at hclosed
      cases hclosed
  | managerDrops =>
    cases h
    exact .around nofun ⟨⟨rfl, rfl, rfl, rfl, rfl, rfl, rfl, id⟩, rfl, rfl,
      fun hclosed => ⟨hclosed, Nat.le_refl _⟩, fun _ => rfl, id⟩
  | managerCloses =>
    cases h
    exact .around nofun ⟨⟨rfl, rfl, rfl, rfl, rfl, rfl, rfl, id⟩, rfl, rfl,
      fun hclosed => ⟨hclosed, Nat.le_refl _⟩, id, id⟩
  | cancelGlobal =>
    cases h
    exact .around nofun ⟨⟨rfl, rfl, rfl, rfl, rfl, rfl, rfl, fun _ => rfl⟩, rfl, rfl,
      fun hclosed => ⟨hclosed, Nat.le_refl _⟩, id, id⟩

/-! ## After a handler -/

/-- What follows a handler changes only the tokens and where the task is. -/
structure Follows (r : Handled L) (c' : DownstreamTask L) : Prop extends Idles r.1 c' where
  downstreamReceiver : c'.downstreamReceiver = r.1.downstreamReceiver
  channelManagerReceiver : c'.channelManagerReceiver = r.1.channelManagerReceiver
  disconnects : c'.disconnects = r.1.disconnects

theorem follows_handleErrorAction (r : Handled L) (e : DownstreamError) (q : TaskPhase) :
    Follows r { (r.1.handleErrorAction e).1 with phase := q } := by
  unfold handleErrorAction
  split
  · exact ⟨⟨rfl, rfl, rfl, rfl, rfl, rfl, rfl, id⟩, rfl, rfl, rfl⟩
  · cases e.action with
    | shutdown => exact ⟨⟨rfl, rfl, rfl, rfl, rfl, rfl, rfl, fun _ => rfl⟩, rfl, rfl, rfl⟩
    | _ => exact ⟨⟨rfl, rfl, rfl, rfl, rfl, rfl, rfl, id⟩, rfl, rfl, rfl⟩

theorem follows_afterSetup (r : Handled L) : Follows r (afterSetup r) := by
  obtain ⟨c, error⟩ := r
  cases error with
  | none => exact ⟨⟨rfl, rfl, rfl, rfl, rfl, rfl, rfl, id⟩, rfl, rfl, rfl⟩
  | some e => exact ⟨⟨rfl, rfl, rfl, rfl, rfl, rfl, rfl, id⟩, rfl, rfl, rfl⟩

theorem follows_afterHandler (r : Handled L) : Follows r (afterHandler r) := by
  obtain ⟨c, error⟩ := r
  cases error with
  | none => exact ⟨⟨rfl, rfl, rfl, rfl, rfl, rfl, rfl, id⟩, rfl, rfl, rfl⟩
  | some e => exact follows_handleErrorAction (c, some e) e _

/-- The task is in its loop, and takes another turn. -/
def Going (c : DownstreamTask L) : Prop :=
  ∃ point, c.phase = .selecting point ∧ (point = .start → c.globalCancelled = false)

/-- The task goes on after a handler that did not fail, or whose error is only logged. -/
theorem going_afterHandler (h : (afterHandler r).Going) :
    r.2 = none ∨ ∃ e, r.2 = some e ∧ e.action = .log := by
  obtain ⟨c, error⟩ := r
  cases error with
  | none => exact .inl rfl
  | some e =>
    obtain ⟨point, hphase, hstart⟩ := h
    refine .inr ⟨e, rfl, ?_⟩
    unfold afterHandler handleErrorAction at hphase hstart
    by_cases hcancelled : c.globalCancelled = true
    · simp only [hcancelled, if_true] at hphase hstart
      cases hphase
      cases hstart rfl
    · cases haction : e.action with
      | log => rfl
      | _ =>
        simp only [hcancelled, haction] at hphase
        cases hphase

theorem afterHandler_ne_settingUp (r : Handled L) : (afterHandler r).phase ≠ .settingUp := by
  obtain ⟨c, error⟩ := r
  cases error with
  | none => nofun
  | some e =>
    simp only [afterHandler]
    split <;> nofun

theorem afterSetup_ne_settingUp (r : Handled L) : (afterSetup r).phase ≠ .settingUp := by
  obtain ⟨c, error⟩ := r
  cases error with
  | none => nofun
  | some e => nofun

/-- The loop starts only if setting up did not fail. -/
theorem going_afterSetup (h : (afterSetup r).Going) : r.2 = none := by
  obtain ⟨c, error⟩ := r
  cases error with
  | none => rfl
  | some e =>
    obtain ⟨point, hphase, -⟩ := h
    cases hphase

/-! ## A connection in small -/

/-- Frames that carry their messages; a mining message has a field under extension 2. -/
def tableFrames : FrameLib where
  Frame := FrameHeader × AnyMessage ℕ
  Mining := ℕ
  Tlv := ℕ
  getHeader frame := some frame.1
  protocolMessageType extType msgType :=
    if extType = 1 then .extensions else if msgType = messageTypeSetupConnection then .common
    else .mining
  parseMessageFrameWithTlvs frame negotiated :=
    some (frame.2, if negotiated.contains 2 then some [2] else none)
  hasWorkSelection flags := flags &&& 2 != 0
  hasRequiresStdJob flags := flags &&& 1 != 0
  encodes _ := true

/-- A pool that supports two extensions and requires one. -/
def tableExtensions : ExtensionConfig := ⟨[2, 3], [2]⟩

def tableTask : DownstreamTask tableFrames where
  phase := .settingUp
  downstreamReceiver := .new
  downstreamSender := .new
  channelManagerReceiver := .new
  channelManagerSender := .new
  requiresStandardJobs := false
  requiresCustomWork := false
  negotiatedExtensions := []
  globalCancelled := false
  connectionCancelled := false
  disconnects := 0

theorem started_tableTask : Started tableTask := ⟨rfl, rfl, rfl, rfl, rfl, rfl, rfl, rfl, rfl⟩

/-- The peer sets up its connection, and the manager sends it a message. -/
def tableSetsUp : List (TaskAction tableFrames) :=
  [.frameArrives (⟨0, 0, 0⟩, .setupConnection ⟨.miningProtocol, 3⟩), .managerSends (9 : ℕ) none,
    .task, .task, .task, .task]

/-- It requests extensions. -/
def tableRequests : List (TaskAction tableFrames) :=
  tableSetsUp ++
    [.frameArrives (⟨1, 1, 0⟩, .requestExtensions ⟨4, [5, 2]⟩), .task, .task, .writerWrites]

/-- Its mining message waits. -/
def tableWaits : List (TaskAction tableFrames) :=
  tableRequests ++ [.frameArrives (⟨0, 0, 27⟩, .mining 7), .task]

/-- It is forwarded. -/
def tableForwards : List (TaskAction tableFrames) := tableWaits ++ [.task]

/-- The peer goes away, and the task notices. -/
def tableEnds : List (TaskAction tableFrames) :=
  tableForwards ++ [.readerEnds, .task, .task, .task, .task, .task]

/-- The state of the table task after some actions. -/
def tableAfter (actions : List (TaskAction tableFrames)) : DownstreamTask tableFrames :=
  (actions.foldlM (next tableExtensions) tableTask).getD tableTask

/-- The transitions that actions of the table take. -/
def tableTrace (actions : List (TaskAction tableFrames)) :
    List (Transition (DownstreamTask tableFrames) (TaskAction tableFrames)) :=
  trace (next tableExtensions) tableTask actions

theorem tableRun {c : DownstreamTask tableFrames} (actions : List (TaskAction tableFrames))
    (h : actions.foldlM (next tableExtensions) tableTask = some c) :
    Run Started (Computes (next tableExtensions)) (tableTrace actions) c :=
  .ofActions started_tableTask actions h

example : (tableAfter tableForwards).downstreamSender.sent =
    [.setupConnectionSuccess 2 2, .mining (9 : ℕ), .requestExtensionsSuccess 4 [2]] := by rfl

example : (tableAfter tableForwards).channelManagerSender.sent = [((7 : ℕ), some [(2 : ℕ)])] := by
  rfl

example : (tableAfter tableEnds).phase = .ended := by rfl

end DownstreamTask

end CanaryMining
