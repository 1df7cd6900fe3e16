import CanaryMining.Lib.Channel
import CanaryMining.Lib.Run
import CanaryMining.Lib.Text

/-!
# The task of a connection

Each connection of the pool has a task.  It first waits for `SetupConnection`; then it takes
turns between the frames of its peer, which it forwards to the channel manager or answers
itself, and the messages of the manager, which it puts out to the peer.  It talks to the
reader, the writer and the manager through channels, which all of them may close at any time.

Parsing and framing are those of the SV2 crates: they are a parameter.  A frame that is put
out is identified with the message it was made of.

## Main definitions

* `FrameLib` — parsing and framing.
* `DownstreamError`, `ErrorAction` — the errors of the handlers and what they ask for.
* `DownstreamTask`, `TaskPhase` — the state of the task, and where it is.
* `DownstreamTask.handleSetupConnection`, `DownstreamTask.handleRequestExtensions`,
  `DownstreamTask.handleDownstreamMessage`, `DownstreamTask.handleChannelManagerMessage`.
* `DownstreamTask.step`, `DownstreamTask.next` — the steps of the task, and of all around it.
-/

namespace CanaryMining

/-! ## Messages -/

/-- What `protocol_message_type` says of a frame. -/
inductive MessageType
  | common
  | mining
  | extensions
  | jobDeclaration
  | templateDistribution
  | unknown
  deriving DecidableEq

/-- The header of a frame. -/
structure FrameHeader where
  extType : UInt16
  extTypeWithoutChannelMsg : UInt16
  msgType : UInt8
  deriving DecidableEq

/-- `Protocol`. -/
inductive Protocol
  | miningProtocol
  | jobDeclarationProtocol
  | templateDistributionProtocol
  deriving DecidableEq

/-- `SetupConnection`, as far as the pool reads it. -/
structure SetupConnection where
  protocol : Protocol
  flags : UInt32
  deriving DecidableEq

/-- `RequestExtensions`. -/
structure RequestExtensions where
  requestId : UInt16
  requestedExtensions : List UInt16
  deriving DecidableEq

/-- A parsed message: one that a connection handles, or another. -/
inductive AnyMessage (Mining : Type)
  | setupConnection (msg : SetupConnection)
  | requestExtensions (msg : RequestExtensions)
  | mining (msg : Mining)
  | other

/-- A message for the peer. -/
inductive ServerMessage (Mining : Type)
  | setupConnectionSuccess (usedVersion : UInt16) (flags : UInt32)
  | setupConnectionError (flags : UInt32) (errorCode : Text)
  | requestExtensionsSuccess (requestId : UInt16) (supportedExtensions : List UInt16)
  | requestExtensionsError (requestId : UInt16)
      (unsupportedExtensions requiredExtensions : List UInt16)
  | mining (msg : Mining)
  deriving DecidableEq

/-- Parsing and framing: a frame is parsed under the extensions that were negotiated. -/
structure FrameLib where
  Frame : Type
  Mining : Type
  Tlv : Type
  getHeader : Frame → Option FrameHeader
  protocolMessageType : UInt16 → UInt8 → MessageType
  parseMessageFrameWithTlvs :
    Frame → List UInt16 → Option (AnyMessage Mining × Option (List Tlv))
  hasWorkSelection : UInt32 → Bool
  hasRequiresStdJob : UInt32 → Bool
  /-- A frame can be made of the message. -/
  encodes : ServerMessage Mining → Bool

/-- `MESSAGE_TYPE_SETUP_CONNECTION`. -/
def messageTypeSetupConnection : UInt8 := 0

/-- `Seq064K::new` takes no longer sequences. -/
def fitsSeq064K {α : Type} (xs : List α) : Bool := decide (xs.length ≤ 65535)

/-! ## Errors -/

/-- `PoolErrorKind`, as far as a connection has such errors. -/
inductive DownstreamErrorKind
  | channelRecv
  | missingHeader
  | parser
  | unexpectedMessage (extType : UInt16) (msgType : UInt8)
  | channelErrorSender
  | channelSend
  | unsupportedProtocol
  | encoding
  | binarySv2
  | clientDoesNotSupportRequiredExtensions (missingRequired : List UInt16)
  deriving DecidableEq

/-- `Action`, which an error asks for. -/
inductive ErrorAction
  | log
  | disconnect
  | shutdown
  deriving DecidableEq

/-- `PoolError`. -/
structure DownstreamError where
  kind : DownstreamErrorKind
  action : ErrorAction
  deriving DecidableEq

/-! ## The task -/

/-- The extensions of the pool. -/
structure ExtensionConfig where
  supportedExtensions : List UInt16
  requiredExtensions : List UInt16

/-- How far a turn of `select!` is, which polls its branches in order. -/
inductive SelectPoint
  /-- Nothing was polled. -/
  | start
  /-- The token was not cancelled. -/
  | notCancelled
  /-- Neither did a frame wait. -/
  | noFrame
  deriving DecidableEq

/-- Where the task is. -/
inductive TaskPhase
  | settingUp
  /-- Setting up has failed: it sleeps, handles the error, calls `on_disconnect` and closes
  its channels. -/
  | setupFailed (e : DownstreamError)
  | setupReported
  | setupDisconnected
  | selecting (point : SelectPoint)
  /-- It has left the loop: it cancels its token, closes its channels and calls
  `on_disconnect`. -/
  | left
  | cancelled
  | closed
  | ended
  deriving DecidableEq

/-- `Downstream` and its task, with the channels around it.  `downstreamReceiver` brings the
frames the reader has read, `downstreamSender` takes what the writer writes, and of
`channelManagerSender` it is the part of this connection. -/
structure DownstreamTask (L : FrameLib) where
  phase : TaskPhase
  downstreamReceiver : Channel L.Frame
  downstreamSender : Channel (ServerMessage L.Mining)
  channelManagerReceiver : Channel (L.Mining × Option (List L.Tlv))
  channelManagerSender : Channel (L.Mining × Option (List L.Tlv))
  requiresStandardJobs : Bool
  requiresCustomWork : Bool
  negotiatedExtensions : List UInt16
  /-- The global token, and the token of this connection, which is its child. -/
  globalCancelled : Bool
  connectionCancelled : Bool
  /-- How often `on_disconnect` was called. -/
  disconnects : ℕ

/-- The steps of the task and of those around it. -/
inductive TaskAction (L : FrameLib)
  | task
  /-- The reader has read a frame. -/
  | frameArrives (frame : L.Frame)
  /-- The reader ends: the token is cancelled, or the peer is gone. -/
  | readerEnds
  /-- The writer writes the oldest frame. -/
  | writerWrites
  | writerEnds
  /-- The manager sends a message. -/
  | managerSends (msg : L.Mining) (tlvFields : Option (List L.Tlv))
  /-- It drops its sender to this connection. -/
  | managerDrops
  /-- Its receiver is gone. -/
  | managerCloses
  | cancelGlobal

/-- Whether it is a step of the task itself. -/
def TaskAction.isTask {L : FrameLib} : TaskAction L → Bool
  | .task => true
  | _ => false

namespace DownstreamTask

variable {L : FrameLib}

/-- What a handler leaves: the state, and the error it returns. -/
abbrev Handled (L : FrameLib) := DownstreamTask L × Option DownstreamError

/-- The message is framed and sent to the peer, which fails if the channel is closed. -/
def sendToDownstream (c : DownstreamTask L) (msg : ServerMessage L.Mining) : Handled L :=
  if L.encodes msg then
    match c.downstreamSender.send msg with
    | some channel => ({ c with downstreamSender := channel }, none)
    | none => (c, some ⟨.channelErrorSender, .disconnect⟩)
  else (c, some ⟨.encoding, .shutdown⟩)

/-- What follows if a handler did not fail so far. -/
def andThen (r : Handled L) (f : DownstreamTask L → Handled L) : Handled L :=
  match r with
  | (c, none) => f c
  | (c, some e) => (c, some e)

/-- `REQUIRES_EXTENDED_CHANNELS` is set if the peer selects its work. -/
def setupResponseFlags (L : FrameLib) (flags : UInt32) : UInt32 :=
  if L.hasWorkSelection flags then 2 else 0

/-- `handle_setup_connection`. -/
def handleSetupConnection (c : DownstreamTask L) (msg : SetupConnection) : Handled L :=
  if msg.protocol ≠ .miningProtocol then
    andThen (c.sendToDownstream (.setupConnectionError 0 "unsupported-protocol".toList)) fun c =>
      (c, some ⟨.unsupportedProtocol, .disconnect⟩)
  else
    { c with
      requiresCustomWork := L.hasWorkSelection msg.flags
      requiresStandardJobs := L.hasRequiresStdJob msg.flags }.sendToDownstream
        (.setupConnectionSuccess 2 (setupResponseFlags L msg.flags))

/-- `handle_common_message_frame_from_client`: only `SetupConnection` has a handler. -/
def handleCommonMessageFrame (c : DownstreamTask L) (header : FrameHeader) (frame : L.Frame) :
    Handled L :=
  match L.parseMessageFrameWithTlvs frame c.negotiatedExtensions with
  | none => (c, some ⟨.parser, .log⟩)
  | some (.setupConnection msg, _) => c.handleSetupConnection msg
  | some _ =>
    (c, some ⟨.unexpectedMessage header.extTypeWithoutChannelMsg header.msgType, .log⟩)

/-- `handle_request_extensions`. -/
def handleRequestExtensions (cfg : ExtensionConfig) (c : DownstreamTask L)
    (msg : RequestExtensions) : Handled L :=
  let requested := msg.requestedExtensions
  let supported := requested.filter fun ext => cfg.supportedExtensions.contains ext
  let unsupported := requested.filter fun ext => !cfg.supportedExtensions.contains ext
  let missingRequired := cfg.requiredExtensions.filter fun ext => !requested.contains ext
  if supported.isEmpty || !missingRequired.isEmpty then
    if fitsSeq064K unsupported && fitsSeq064K missingRequired then
      andThen (c.sendToDownstream
          (.requestExtensionsError msg.requestId unsupported missingRequired)) fun c =>
        if missingRequired.isEmpty then (c, none)
        else (c, some ⟨.clientDoesNotSupportRequiredExtensions missingRequired, .disconnect⟩)
    else (c, some ⟨.binarySv2, .shutdown⟩)
  else
    -- Stored before the answer is put out.
    let c := { c with negotiatedExtensions := supported }
    if fitsSeq064K supported then
      c.sendToDownstream (.requestExtensionsSuccess msg.requestId supported)
    else (c, some ⟨.binarySv2, .shutdown⟩)

/-- `handle_extensions_message_frame_from_client`: only `RequestExtensions` has a handler. -/
def handleExtensionsMessageFrame (cfg : ExtensionConfig) (c : DownstreamTask L)
    (header : FrameHeader) (frame : L.Frame) : Handled L :=
  match L.parseMessageFrameWithTlvs frame c.negotiatedExtensions with
  | none => (c, some ⟨.parser, .log⟩)
  | some (.requestExtensions msg, _) => c.handleRequestExtensions cfg msg
  | some _ =>
    (c, some ⟨.unexpectedMessage header.extTypeWithoutChannelMsg header.msgType, .log⟩)

/-- `setup_connection_with_downstream`, once a frame waits or none can come. -/
def setupConnectionWithDownstream (c : DownstreamTask L) : Handled L :=
  match c.downstreamReceiver.recv with
  | none => (c, some ⟨.channelRecv, .disconnect⟩)
  | some (frame, channel) =>
    let c := { c with downstreamReceiver := channel }
    match L.getHeader frame with
    | none => (c, some ⟨.missingHeader, .disconnect⟩)
    | some header =>
      if header.msgType = messageTypeSetupConnection then c.handleCommonMessageFrame header frame
      else
        (c, some ⟨.unexpectedMessage header.extTypeWithoutChannelMsg header.msgType,
          .disconnect⟩)

/-- A mining frame is parsed and forwarded to the manager. -/
def forwardMining (c : DownstreamTask L) (header : FrameHeader) (frame : L.Frame) : Handled L :=
  match L.parseMessageFrameWithTlvs frame c.negotiatedExtensions with
  | none => (c, some ⟨.parser, .disconnect⟩)
  | some (.mining msg, tlvFields) =>
    match c.channelManagerSender.send (msg, tlvFields) with
    | some channel => ({ c with channelManagerSender := channel }, none)
    | none => (c, some ⟨.channelSend, .shutdown⟩)
  | some _ =>
    (c, some ⟨.unexpectedMessage header.extTypeWithoutChannelMsg header.msgType, .disconnect⟩)

/-- `handle_downstream_message`, once a frame waits or none can come. -/
def handleDownstreamMessage (cfg : ExtensionConfig) (c : DownstreamTask L) : Handled L :=
  match c.downstreamReceiver.recv with
  | none => (c, some ⟨.channelRecv, .disconnect⟩)
  | some (frame, channel) =>
    let c := { c with downstreamReceiver := channel }
    match L.getHeader frame with
    | none => (c, some ⟨.missingHeader, .disconnect⟩)
    | some header =>
      match L.protocolMessageType header.extType header.msgType with
      | .mining => c.forwardMining header frame
      | .extensions => c.handleExtensionsMessageFrame cfg header frame
      | .common | .jobDeclaration | .templateDistribution | .unknown => (c, none)

/-- `handle_channel_manager_message`, once a message waits or none can come. -/
def handleChannelManagerMessage (c : DownstreamTask L) : Handled L :=
  match c.channelManagerReceiver.recv with
  | none => (c, some ⟨.channelRecv, .disconnect⟩)
  | some ((msg, _), channel) =>
    { c with channelManagerReceiver := channel }.sendToDownstream (.mining msg)

/-- `handle_error_action`, and whether the loop goes on. -/
def handleErrorAction (c : DownstreamTask L) (e : DownstreamError) : DownstreamTask L × Bool :=
  if c.globalCancelled then (c, true)
  else
    match e.action with
    | .log => (c, true)
    | .disconnect => ({ c with connectionCancelled := true }, false)
    | .shutdown => ({ c with globalCancelled := true, connectionCancelled := true }, false)

/-- `DownstreamIo::close`. -/
def close (c : DownstreamTask L) : DownstreamTask L :=
  { c with
    downstreamSender := c.downstreamSender.close
    channelManagerReceiver := c.channelManagerReceiver.closeAndDrain
    downstreamReceiver := c.downstreamReceiver.closeAndDrain }

/-- Neither a message waits in the channel nor is it closed. -/
def isPending {α : Type} (channel : Channel α) : Bool :=
  channel.waiting.isEmpty && channel.isOpen

/-- `start` goes on after setting up. -/
def afterSetup : Handled L → DownstreamTask L
  | (c, none) => { c with phase := .selecting .start }
  | (c, some e) => { c with phase := .setupFailed e }

/-- The loop goes on after a handler. -/
def afterHandler : Handled L → DownstreamTask L
  | (c, none) => { c with phase := .selecting .start }
  | (c, some e) =>
    let r := c.handleErrorAction e
    { r.1 with phase := if r.2 then .selecting .start else .left }

/-- `start`: the next step of the task, unless it waits. -/
def step (cfg : ExtensionConfig) (c : DownstreamTask L) : Option (DownstreamTask L) :=
  match c.phase with
  | .settingUp =>
    if isPending c.downstreamReceiver then none
    else some (afterSetup c.setupConnectionWithDownstream)
  | .setupFailed e => some { (c.handleErrorAction e).1 with phase := .setupReported }
  | .setupReported => some { c with disconnects := c.disconnects + 1, phase := .setupDisconnected }
  | .setupDisconnected => some { c.close with phase := .ended }
  | .selecting .start =>
    some { c with phase := if c.globalCancelled then .left else .selecting .notCancelled }
  | .selecting .notCancelled =>
    if isPending c.downstreamReceiver then some { c with phase := .selecting .noFrame }
    else some (afterHandler (c.handleDownstreamMessage cfg))
  | .selecting .noFrame =>
    -- The task sleeps until one of the branches is ready, and polls again.
    if isPending c.channelManagerReceiver then some { c with phase := .selecting .start }
    else some (afterHandler c.handleChannelManagerMessage)
  | .left => some { c with connectionCancelled := true, phase := .cancelled }
  | .cancelled => some { c.close with phase := .closed }
  | .closed => some { c with disconnects := c.disconnects + 1, phase := .ended }
  | .ended => none

/-- The reader closes both channels at its end, and throws away what is not written. -/
def endReader (c : DownstreamTask L) : DownstreamTask L :=
  { c with
    downstreamReceiver := c.downstreamReceiver.close
    downstreamSender := c.downstreamSender.closeAndDrain }

/-- **The steps of the task and of those around it.** -/
def next (cfg : ExtensionConfig) (c : DownstreamTask L) : TaskAction L → Option (DownstreamTask L)
  | .task => c.step cfg
  | .frameArrives frame =>
    match c.downstreamReceiver.send frame with
    | some channel => some { c with downstreamReceiver := channel }
    | none => some c.endReader
  -- The writer does at its end what the reader does.
  | .readerEnds | .writerEnds => some c.endReader
  | .writerWrites =>
    c.downstreamSender.recv.map fun taken => { c with downstreamSender := taken.2 }
  | .managerSends msg tlvFields =>
    (c.channelManagerReceiver.send (msg, tlvFields)).map fun channel =>
      { c with channelManagerReceiver := channel }
  | .managerDrops => some { c with channelManagerReceiver := c.channelManagerReceiver.close }
  | .managerCloses => some { c with channelManagerSender := c.channelManagerSender.close }
  | .cancelGlobal => some { c with globalCancelled := true, connectionCancelled := true }

/-- `Downstream::new`: nothing was sent or received. -/
structure Started (c : DownstreamTask L) : Prop where
  phase : c.phase = .settingUp
  downstreamReceiver : c.downstreamReceiver = .new
  downstreamSender : c.downstreamSender = .new
  channelManagerReceiver : c.channelManagerReceiver = .new
  channelManagerSender : c.channelManagerSender.sent = []
  requiresStandardJobs : c.requiresStandardJobs = false
  requiresCustomWork : c.requiresCustomWork = false
  negotiatedExtensions : c.negotiatedExtensions = []
  disconnects : c.disconnects = 0

end DownstreamTask

end CanaryMining
