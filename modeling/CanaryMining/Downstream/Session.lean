import CanaryMining.Downstream.Task

/-!
# The session of a connection

Seen from outside, a connection reads its frames one after another: the first sets it up,
each later one is forwarded, answered or ignored, or ends the connection.  This session
knows nothing of channels, of the manager's messages or of shutdowns.  The handlers of the
task do what the session does, unless they fail to put something out.

## Main definitions

* `Session`, `Session.take`, `session` — what a connection does with its frames.
* `DownstreamTask.HandledFrame` — a handler does what the session does, or fails to send.
-/

namespace CanaryMining

variable {L : FrameLib} {cfg : ExtensionConfig}

/-! ## Sessions -/

/-- How far a session is. -/
inductive SessionPhase
  | awaitingSetup
  | established
  | finished
  deriving DecidableEq

/-- What a connection knows, has answered and has forwarded. -/
structure Session (L : FrameLib) where
  phase : SessionPhase
  requiresStandardJobs : Bool
  requiresCustomWork : Bool
  negotiated : List UInt16
  replies : List (ServerMessage L.Mining)
  forwarded : List (L.Mining × Option (List L.Tlv))

/-- What a frame is to a connection that is set up. -/
inductive FrameRequest (L : FrameLib)
  | forward (msg : L.Mining × Option (List L.Tlv))
  | negotiate (msg : RequestExtensions)
  | nothing
  | hangUp

/-- Reads the first frame. -/
def readSetup (L : FrameLib) (negotiated : List UInt16) (frame : L.Frame) :
    Option SetupConnection := do
  let header ← L.getHeader frame
  if header.msgType = messageTypeSetupConnection then
    match ← L.parseMessageFrameWithTlvs frame negotiated with
    | (.setupConnection msg, _) => some msg
    | _ => none
  else none

/-- Reads a later frame, under the extensions negotiated so far. -/
def readFrame (L : FrameLib) (negotiated : List UInt16) (frame : L.Frame) : FrameRequest L :=
  match L.getHeader frame with
  | none => .hangUp
  | some header =>
    match L.protocolMessageType header.extType header.msgType,
      L.parseMessageFrameWithTlvs frame negotiated with
    | .mining, some (.mining msg, tlvFields) => .forward (msg, tlvFields)
    | .mining, _ => .hangUp
    | .extensions, some (.requestExtensions msg, _) => .negotiate msg
    | _, _ => .nothing

namespace RequestExtensions

/-- The requested extensions that the pool supports, and those it does not. -/
def common (cfg : ExtensionConfig) (msg : RequestExtensions) : List UInt16 :=
  msg.requestedExtensions.filter fun ext => cfg.supportedExtensions.contains ext

def uncommon (cfg : ExtensionConfig) (msg : RequestExtensions) : List UInt16 :=
  msg.requestedExtensions.filter fun ext => !cfg.supportedExtensions.contains ext

/-- The extensions that the pool requires and the request lacks. -/
def lacking (cfg : ExtensionConfig) (msg : RequestExtensions) : List UInt16 :=
  cfg.requiredExtensions.filter fun ext => !msg.requestedExtensions.contains ext

/-- The request lacks nothing, and something of it is common. -/
def Accepted (cfg : ExtensionConfig) (msg : RequestExtensions) : Prop :=
  msg.lacking cfg = [] ∧ msg.common cfg ≠ []

instance (cfg : ExtensionConfig) (msg : RequestExtensions) : Decidable (msg.Accepted cfg) :=
  inferInstanceAs (Decidable (_ ∧ _))

end RequestExtensions

namespace Session

/-- A session without frames. -/
def new : Session L := ⟨.awaitingSetup, false, false, [], [], []⟩

/-- The answer to `SetupConnection`. -/
def setUp (s : Session L) : Option SetupConnection → Session L
  | none => { s with phase := .finished }
  | some msg =>
    if msg.protocol = .miningProtocol then
      { s with
        phase := .established
        requiresStandardJobs := L.hasRequiresStdJob msg.flags
        requiresCustomWork := L.hasWorkSelection msg.flags
        replies := s.replies ++ [.setupConnectionSuccess 2
          (DownstreamTask.setupResponseFlags L msg.flags)] }
    else
      { s with
        phase := .finished
        replies := s.replies ++ [.setupConnectionError 0 "unsupported-protocol".toList] }

/-- The answer to `RequestExtensions`: what is common is negotiated, unless there is nothing
or something is lacking; in the latter case the session is over. -/
def negotiate (cfg : ExtensionConfig) (s : Session L) (msg : RequestExtensions) : Session L :=
  if msg.Accepted cfg then
    { s with
      negotiated := msg.common cfg
      replies := s.replies ++ [.requestExtensionsSuccess msg.requestId (msg.common cfg)] }
  else
    { s with
      phase := if msg.lacking cfg = [] then s.phase else .finished
      replies := s.replies ++
        [.requestExtensionsError msg.requestId (msg.uncommon cfg) (msg.lacking cfg)] }

/-- What the session does with its next frame. -/
def take (cfg : ExtensionConfig) (s : Session L) (frame : L.Frame) : Session L :=
  match s.phase with
  | .awaitingSetup => s.setUp (readSetup L s.negotiated frame)
  | .established =>
    match readFrame L s.negotiated frame with
    | .forward msg => { s with forwarded := s.forwarded ++ [msg] }
    | .negotiate msg => s.negotiate cfg msg
    | .nothing => s
    | .hangUp => { s with phase := .finished }
  | .finished => s

end Session

/-- **The session** of some frames. -/
def session (cfg : ExtensionConfig) (frames : List L.Frame) : Session L :=
  frames.foldl (Session.take cfg) .new

theorem session_append_singleton (frames : List L.Frame) (frame : L.Frame) :
    session cfg (frames ++ [frame]) = (session cfg frames).take cfg frame := by
  simp [session]

namespace DownstreamTask

variable {c c' : DownstreamTask L} {s s' : Session L} {r : Handled L}

/-! ## What the handlers do -/

/-- What no handler changes. -/
structure Kept (c c' : DownstreamTask L) : Prop where
  phase : c'.phase = c.phase
  downstreamReceiver : c'.downstreamReceiver = c.downstreamReceiver
  channelManagerReceiver : c'.channelManagerReceiver = c.channelManagerReceiver
  globalCancelled : c'.globalCancelled = c.globalCancelled
  disconnects : c'.disconnects = c.disconnects

/-- The state of the task says what that of the session says. -/
structure Agrees (s : Session L) (c : DownstreamTask L) : Prop where
  requiresStandardJobs : c.requiresStandardJobs = s.requiresStandardJobs
  requiresCustomWork : c.requiresCustomWork = s.requiresCustomWork
  negotiatedExtensions : c.negotiatedExtensions = s.negotiated

/-- The task has done what took the session from `s` to `s'`. -/
structure Took (c c' : DownstreamTask L) (s s' : Session L) : Prop where
  agrees : Agrees s' c'
  replied : ∃ replies, s'.replies = s.replies ++ replies ∧ replies.length ≤ 1 ∧
    c'.downstreamSender.sent = c.downstreamSender.sent ++ replies
  forwarded : ∃ msgs, s'.forwarded = s.forwarded ++ msgs ∧
    c'.channelManagerSender.sent = c.channelManagerSender.sent ++ msgs

/-- The task has put nothing out. -/
structure Silent (c c' : DownstreamTask L) : Prop where
  downstreamSender : c'.downstreamSender.sent = c.downstreamSender.sent
  channelManagerSender : c'.channelManagerSender.sent = c.channelManagerSender.sent

/-- The handler does what the session does, and goes on only if that does, or it fails to
put something out and does not go on. -/
structure HandledFrame (c : DownstreamTask L) (s s' : Session L) (r : Handled L) : Prop where
  kept : Kept c r.1
  took : Took c r.1 s s' ∨ (Silent c r.1 ∧ ∃ e, r.2 = some e ∧ e.action ≠ .log)
  going : r.2 = none → s'.phase = .established
  logged : ∀ e, r.2 = some e → e.action = .log → s.phase = .established → s'.phase = .established

/-- The task has stored what it knows of its peer, and done nothing else. -/
structure Stored (c c' : DownstreamTask L) : Prop where
  kept : Kept c c'
  downstreamSender : c'.downstreamSender = c.downstreamSender
  channelManagerSender : c'.channelManagerSender = c.channelManagerSender

theorem Kept.refl (c : DownstreamTask L) : Kept c c := ⟨rfl, rfl, rfl, rfl, rfl⟩

theorem Kept.trans {c'' : DownstreamTask L} (h : Kept c c') (h' : Kept c' c'') : Kept c c'' where
  phase := h'.phase.trans h.phase
  downstreamReceiver := h'.downstreamReceiver.trans h.downstreamReceiver
  channelManagerReceiver := h'.channelManagerReceiver.trans h.channelManagerReceiver
  globalCancelled := h'.globalCancelled.trans h.globalCancelled
  disconnects := h'.disconnects.trans h.disconnects

theorem Stored.refl (c : DownstreamTask L) : Stored c c := ⟨.refl c, rfl, rfl⟩

theorem andThen_none (r : Handled L) : andThen r (fun c => (c, none)) = r := by
  unfold andThen
  split <;> rfl

/-- **Sending to the peer**: the message was put in, or it is an error to leave for. -/
theorem of_sendToDownstream (c : DownstreamTask L) (msg : ServerMessage L.Mining) :
    (∃ channel, c.sendToDownstream msg = ({ c with downstreamSender := channel }, none) ∧
      channel.sent = c.downstreamSender.sent ++ [msg]) ∨
      ∃ e, c.sendToDownstream msg = (c, some e) ∧ e.action ≠ .log := by
  unfold sendToDownstream
  split
  · cases hsend : c.downstreamSender.send msg with
    | none => exact .inr ⟨_, rfl, nofun⟩
    | some channel => exact .inl ⟨channel, rfl, (Channel.of_send hsend).2.1⟩
  · exact .inr ⟨_, rfl, nofun⟩

/-- The manager's message was put in, or it is an error to leave for; or there is none. -/
inductive RelayedMessage (c : DownstreamTask L) (r : Handled L) : Prop
  | nothing (hr : r = (c, some ⟨.channelRecv, .disconnect⟩))
  | sent {msg : L.Mining × Option (List L.Tlv)}
      {channel : Channel (L.Mining × Option (List L.Tlv))}
      {sender : Channel (ServerMessage L.Mining)}
      (hreceived : channel.received = c.channelManagerReceiver.received ++ [msg])
      (hsent : sender.sent = c.downstreamSender.sent ++ [.mining msg.1])
      (hr : r = ({ c with channelManagerReceiver := channel, downstreamSender := sender }, none))
  | failed {msg : L.Mining × Option (List L.Tlv)}
      {channel : Channel (L.Mining × Option (List L.Tlv))} {e : DownstreamError}
      (hreceived : channel.received = c.channelManagerReceiver.received ++ [msg])
      (he : e.action ≠ .log) (hr : r = ({ c with channelManagerReceiver := channel }, some e))

/-- **Relaying to the peer.** -/
theorem relayedMessage_handleChannelManagerMessage (c : DownstreamTask L) :
    RelayedMessage c c.handleChannelManagerMessage := by
  unfold handleChannelManagerMessage
  cases hrecv : c.channelManagerReceiver.recv with
  | none => exact .nothing rfl
  | some taken =>
    obtain ⟨msg, channel⟩ := taken
    obtain ⟨hreceived, -⟩ := Channel.of_recv hrecv
    obtain ⟨sender, heq, hsent⟩ | ⟨e, heq, he⟩ := of_sendToDownstream
      { c with channelManagerReceiver := channel } (.mining msg.1)
    · exact .sent hreceived hsent heq
    · exact .failed hreceived he heq

/-- A handler that only stores something and leaves. -/
theorem handledFrame_of_error {c₀ : DownstreamTask L} {e : DownstreamError}
    (hstored : Stored c c₀) (he : e.action ≠ .log) : HandledFrame c s s' (c₀, some e) :=
  ⟨hstored.kept, .inr ⟨⟨congrArg _ hstored.downstreamSender,
    congrArg _ hstored.channelManagerSender⟩, e, rfl, he⟩, nofun, fun e' heq hlog => by
      cases heq
      exact absurd hlog he⟩

/-- A handler that stores something, answers and then goes on or leaves. -/
theorem handledFrame_andThen {c₀ : DownstreamTask L} {msg : ServerMessage L.Mining}
    {error : Option DownstreamError} (hstored : Stored c c₀) (hagrees : Agrees s' c₀)
    (hreplies : s'.replies = s.replies ++ [msg]) (hforwarded : s'.forwarded = s.forwarded)
    (hphase : error = none → s'.phase = .established)
    (herror : ∀ e, error = some e → e.action ≠ .log) :
    HandledFrame c s s' (andThen (c₀.sendToDownstream msg) fun c => (c, error)) := by
  obtain ⟨hkept, hsender, hmanager⟩ := hstored
  obtain ⟨channel, heq, hsent⟩ | ⟨e, heq, he⟩ := of_sendToDownstream c₀ msg
  · rw [heq]
    have hkept' : Kept c { c₀ with downstreamSender := channel } :=
      hkept.trans ⟨rfl, rfl, rfl, rfl, rfl⟩
    have hagrees' : Agrees s' { c₀ with downstreamSender := channel } :=
      ⟨hagrees.requiresStandardJobs, hagrees.requiresCustomWork, hagrees.negotiatedExtensions⟩
    rw [hsender] at hsent
    exact ⟨hkept', .inl ⟨hagrees', ⟨[msg], hreplies, Nat.le_refl 1, hsent⟩, [],
      by simp [hforwarded], by simp [andThen, hmanager]⟩, hphase,
      fun e he hlog => absurd hlog (herror e he)⟩
  · rw [heq]
    exact handledFrame_of_error ⟨hkept, hsender, hmanager⟩ he

/-- A handler that stores something and answers. -/
theorem handledFrame_sendToDownstream {c₀ : DownstreamTask L} {msg : ServerMessage L.Mining}
    (hstored : Stored c c₀) (hagrees : Agrees s' c₀)
    (hreplies : s'.replies = s.replies ++ [msg]) (hforwarded : s'.forwarded = s.forwarded)
    (hphase : s'.phase = .established) : HandledFrame c s s' (c₀.sendToDownstream msg) := by
  have h : HandledFrame c s s' (andThen (c₀.sendToDownstream msg) fun c => (c, none)) :=
    handledFrame_andThen hstored hagrees hreplies hforwarded (fun _ => hphase) nofun
  rwa [andThen_none] at h

/-- **`handle_setup_connection`.** -/
theorem handledFrame_handleSetupConnection (hagrees : Agrees s c) (msg : SetupConnection) :
    HandledFrame c s (s.setUp (some msg)) (c.handleSetupConnection msg) := by
  unfold handleSetupConnection Session.setUp
  by_cases hprotocol : msg.protocol = .miningProtocol
  · simp only [hprotocol, ne_eq, not_true_eq_false, if_false, if_true]
    exact handledFrame_sendToDownstream ⟨⟨rfl, rfl, rfl, rfl, rfl⟩, rfl, rfl⟩
      ⟨rfl, rfl, hagrees.negotiatedExtensions⟩ rfl rfl rfl
  · simp only [hprotocol, ne_eq, not_false_eq_true, if_true, if_false]
    exact handledFrame_andThen (.refl c) ⟨hagrees.requiresStandardJobs,
      hagrees.requiresCustomWork, hagrees.negotiatedExtensions⟩ rfl rfl nofun fun e he => by
        cases he
        nofun

/-- The two branches of `handle_request_extensions`. -/
theorem handleRequestExtensions_eq (c : DownstreamTask L) (msg : RequestExtensions) :
    c.handleRequestExtensions cfg msg =
      if msg.Accepted cfg then
        if fitsSeq064K (msg.common cfg) then
          { c with negotiatedExtensions := msg.common cfg }.sendToDownstream
            (.requestExtensionsSuccess msg.requestId (msg.common cfg))
        else ({ c with negotiatedExtensions := msg.common cfg }, some ⟨.binarySv2, .shutdown⟩)
      else
        if fitsSeq064K (msg.uncommon cfg) && fitsSeq064K (msg.lacking cfg) then
          andThen (c.sendToDownstream (.requestExtensionsError msg.requestId
            (msg.uncommon cfg) (msg.lacking cfg))) fun c =>
              (c, if msg.lacking cfg = [] then none
                else some ⟨.clientDoesNotSupportRequiredExtensions (msg.lacking cfg),
                  .disconnect⟩)
        else (c, some ⟨.binarySv2, .shutdown⟩) := by
  have hcode : c.handleRequestExtensions cfg msg =
      if (msg.common cfg).isEmpty || !(msg.lacking cfg).isEmpty then
        if fitsSeq064K (msg.uncommon cfg) && fitsSeq064K (msg.lacking cfg) then
          andThen (c.sendToDownstream (.requestExtensionsError msg.requestId
            (msg.uncommon cfg) (msg.lacking cfg))) fun c =>
              if (msg.lacking cfg).isEmpty then (c, none)
              else (c, some ⟨.clientDoesNotSupportRequiredExtensions (msg.lacking cfg),
                .disconnect⟩)
        else (c, some ⟨.binarySv2, .shutdown⟩)
      else
        if fitsSeq064K (msg.common cfg) then
          { c with negotiatedExtensions := msg.common cfg }.sendToDownstream
            (.requestExtensionsSuccess msg.requestId (msg.common cfg))
        else ({ c with negotiatedExtensions := msg.common cfg },
          some ⟨.binarySv2, .shutdown⟩) := rfl
  have hcond : ((msg.common cfg).isEmpty || !(msg.lacking cfg).isEmpty) = true ↔
      ¬msg.Accepted cfg := by
    simp only [RequestExtensions.Accepted, Bool.or_eq_true, List.isEmpty_iff, Bool.not_eq_true',
      List.isEmpty_eq_false_iff, not_and, not_not]
    tauto
  rw [hcode]
  by_cases haccepted : msg.Accepted cfg
  · rw [if_neg fun h => hcond.1 h haccepted, if_pos haccepted]
  · rw [if_pos (hcond.2 haccepted), if_neg haccepted]
    simp only [List.isEmpty_iff, apply_ite (Prod.mk _)]

/-- **`handle_request_extensions`.** -/
theorem handledFrame_handleRequestExtensions (hagrees : Agrees s c)
    (hphase : s.phase = .established) (msg : RequestExtensions) :
    HandledFrame c s (s.negotiate cfg msg) (c.handleRequestExtensions cfg msg) := by
  rw [handleRequestExtensions_eq]
  unfold Session.negotiate
  by_cases haccepted : msg.Accepted cfg
  · rw [if_pos haccepted, if_pos haccepted]
    have hstored : Stored c { c with negotiatedExtensions := msg.common cfg } :=
      ⟨⟨rfl, rfl, rfl, rfl, rfl⟩, rfl, rfl⟩
    split
    · exact handledFrame_sendToDownstream hstored
        ⟨hagrees.requiresStandardJobs, hagrees.requiresCustomWork, rfl⟩ rfl rfl hphase
    · exact handledFrame_of_error hstored nofun
  · rw [if_neg haccepted, if_neg haccepted]
    by_cases hfits : (fitsSeq064K (msg.uncommon cfg) && fitsSeq064K (msg.lacking cfg)) = true
    · rw [if_pos hfits]
      refine handledFrame_andThen (.refl c) ⟨hagrees.requiresStandardJobs,
        hagrees.requiresCustomWork, hagrees.negotiatedExtensions⟩ rfl rfl (fun hnone => ?_) ?_
      · have hlacking : msg.lacking cfg = [] := by
          by_contra hne
          simp [hne] at hnone
        simp [hlacking, hphase]
      · intro e he hlog
        split at he
        · cases he
        · cases he
          cases hlog
    · rw [if_neg hfits]
      exact handledFrame_of_error (.refl c) nofun

/-! ## What a frame does -/

/-- A handler that changes nothing but where the session is. -/
theorem handledFrame_of_agrees {error : Option DownstreamError} (hagrees : Agrees s c)
    (hs' : s' = { s with phase := s'.phase }) (hgoing : error = none → s'.phase = .established)
    (hlogged : ∀ e, error = some e → e.action = .log → s.phase = .established →
      s'.phase = .established) : HandledFrame c s s' (c, error) := by
  have hreplies : s'.replies = s.replies := by rw [hs']
  have hforwarded : s'.forwarded = s.forwarded := by rw [hs']
  have hagrees' : Agrees s' c := by
    rw [hs']
    exact ⟨hagrees.requiresStandardJobs, hagrees.requiresCustomWork,
      hagrees.negotiatedExtensions⟩
  exact ⟨.refl c, .inl ⟨hagrees', ⟨[], by simp [hreplies]⟩, [], by simp [hforwarded]⟩, hgoing,
    hlogged⟩

theorem Agrees.withReceiver (h : Agrees s c) (channel : Channel L.Frame) :
    Agrees s { c with downstreamReceiver := channel } :=
  ⟨h.requiresStandardJobs, h.requiresCustomWork, h.negotiatedExtensions⟩

/-- **`setup_connection_with_downstream`.** -/
theorem handledFrame_setupConnectionWithDownstream {frame : L.Frame} {channel : Channel L.Frame}
    (hrecv : c.downstreamReceiver.recv = some (frame, channel)) (hagrees : Agrees s c)
    (hphase : s.phase = .awaitingSetup) :
    HandledFrame { c with downstreamReceiver := channel } s (s.take cfg frame)
      c.setupConnectionWithDownstream := by
  have hagrees' := hagrees.withReceiver channel
  have hparse : L.parseMessageFrameWithTlvs frame c.negotiatedExtensions =
      L.parseMessageFrameWithTlvs frame s.negotiated := by
    rw [hagrees.negotiatedExtensions]
  have hnot : ∀ {P : Prop}, s.phase = .established → P := by
    intro P h
    rw [hphase] at h
    cases h
  have hrefused : ∀ e, readSetup L s.negotiated frame = none → HandledFrame
      { c with downstreamReceiver := channel } s (s.setUp (readSetup L s.negotiated frame))
      ({ c with downstreamReceiver := channel }, some e) := by
    intro e hread
    rw [hread]
    exact handledFrame_of_agrees hagrees' rfl nofun fun _ _ _ h => hnot h
  unfold setupConnectionWithDownstream Session.take
  simp only [hrecv, hphase]
  cases hheader : L.getHeader frame with
  | none => exact hrefused _ (by simp [readSetup, hheader])
  | some header =>
    by_cases htype : header.msgType = messageTypeSetupConnection
    · simp only [htype, if_true]
      unfold handleCommonMessageFrame
      simp only [hparse]
      cases hparsed : L.parseMessageFrameWithTlvs frame s.negotiated with
      | none => exact hrefused _ (by simp [readSetup, hheader, hparsed])
      | some parsed =>
        obtain ⟨msg, tlvFields⟩ := parsed
        cases msg with
        | setupConnection msg =>
          have hread : readSetup L s.negotiated frame = some msg := by
            simp [readSetup, hheader, htype, hparsed]
          rw [hread]
          exact handledFrame_handleSetupConnection hagrees' msg
        | _ => exact hrefused _ (by simp [readSetup, hheader, hparsed])
    · simp only [htype, if_false]
      exact hrefused _ (by simp [readSetup, hheader, htype])

/-- **`handle_downstream_message`.** -/
theorem handledFrame_handleDownstreamMessage {frame : L.Frame} {channel : Channel L.Frame}
    (hrecv : c.downstreamReceiver.recv = some (frame, channel)) (hagrees : Agrees s c)
    (hphase : s.phase = .established) :
    HandledFrame { c with downstreamReceiver := channel } s (s.take cfg frame)
      (c.handleDownstreamMessage cfg) := by
  have hagrees' := hagrees.withReceiver channel
  have hparse : L.parseMessageFrameWithTlvs frame c.negotiatedExtensions =
      L.parseMessageFrameWithTlvs frame s.negotiated := by
    rw [hagrees.negotiatedExtensions]
  have hends : ∀ e : DownstreamError, e.action ≠ .log → HandledFrame
      { c with downstreamReceiver := channel } s { s with phase := .finished }
      ({ c with downstreamReceiver := channel }, some e) := by
    intro e he
    refine handledFrame_of_agrees hagrees' rfl (fun hnone => ?_) fun e' heq hlog => ?_
    · cases hnone
    · cases heq
      exact absurd hlog he
  have hstays : ∀ error : Option DownstreamError, HandledFrame
      { c with downstreamReceiver := channel } s s
      ({ c with downstreamReceiver := channel }, error) := fun error =>
    handledFrame_of_agrees hagrees' rfl (fun _ => hphase) fun _ _ _ h => h
  have hdisconnect : ErrorAction.disconnect ≠ .log := by decide
  have hshutdown : ErrorAction.shutdown ≠ .log := by decide
  unfold handleDownstreamMessage Session.take
  simp only [hrecv, hphase, readFrame]
  cases hheader : L.getHeader frame with
  | none => exact hends _ hdisconnect
  | some header =>
    simp only
    cases htype : L.protocolMessageType header.extType header.msgType with
    | mining =>
      unfold forwardMining
      simp only [hparse]
      cases hparsed : L.parseMessageFrameWithTlvs frame s.negotiated with
      | none => exact hends _ hdisconnect
      | some parsed =>
        obtain ⟨msg, tlvFields⟩ := parsed
        cases msg with
        | mining msg =>
          simp only
          cases hsend : c.channelManagerSender.send (msg, tlvFields) with
          | none => exact handledFrame_of_error (.refl _) hshutdown
          | some manager =>
            refine ⟨⟨rfl, rfl, rfl, rfl, rfl⟩, .inl ⟨⟨hagrees.requiresStandardJobs,
              hagrees.requiresCustomWork, hagrees.negotiatedExtensions⟩, ⟨[], by simp⟩,
              [(msg, tlvFields)], rfl, (Channel.of_send hsend).2.1⟩, fun _ => rfl, ?_⟩
            intro e he
            cases he
        | _ => exact hends _ hdisconnect
    | extensions =>
      unfold handleExtensionsMessageFrame
      simp only [hparse]
      cases hparsed : L.parseMessageFrameWithTlvs frame s.negotiated with
      | none => exact hstays _
      | some parsed =>
        obtain ⟨msg, tlvFields⟩ := parsed
        cases msg with
        | requestExtensions msg => exact handledFrame_handleRequestExtensions hagrees' hphase msg
        | _ => exact hstays _
    | _ => exact hstays _

end DownstreamTask

end CanaryMining
