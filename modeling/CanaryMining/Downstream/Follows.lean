import CanaryMining.Downstream.Steps

/-!
# The task does what the session does

Whatever the reader, the writer, the manager and those who cancel the tokens do in between,
the task of a connection takes its peer's frames and does with them what the session does,
and puts the manager's messages out between its own answers.  What it does not get done is
at most the last frame and the last message.

## Main definitions

* `lastNegotiated` — the extensions the peer was told of last.
* `Session.Sound` — what holds of every session.
* `DownstreamTask.FollowsSession` — what the task has done with some frames and messages.

**Main result:** `DownstreamTask.session_of_run`.
-/

namespace CanaryMining

variable {L : FrameLib} {cfg : ExtensionConfig}

/-! ## Sessions -/

/-- The extensions of the last `RequestExtensionsSuccess`. -/
def lastNegotiated {Mining : Type} (msgs : List (ServerMessage Mining)) : List UInt16 :=
  msgs.foldl (fun told msg =>
    match msg with
    | .requestExtensionsSuccess _ supportedExtensions => supportedExtensions
    | _ => told) []

namespace Session

/-- What holds of a session: its first answer is to `SetupConnection`, and what it has
negotiated is what it said last, if it has accepted a request, and what was common with some
request. -/
structure Sound (cfg : ExtensionConfig) (frames : List L.Frame) (s : Session L) : Prop where
  awaiting : s.phase = .awaitingSetup → s = .new
  first : s.phase = .established →
    ∃ flags, s.replies.head? = some (.setupConnectionSuccess 2 flags)
  told : s.negotiated = lastNegotiated s.replies
  requested : (∀ id exts, .requestExtensionsSuccess id exts ∉ s.replies) ∨
    ∃ frame ∈ frames, ∃ exts msg tlvFields,
    L.parseMessageFrameWithTlvs frame exts = some (.requestExtensions msg, tlvFields) ∧
      msg.Accepted cfg ∧ s.negotiated = msg.common cfg

theorem sound_new : Sound cfg [] (new : Session L) :=
  ⟨fun _ => rfl, nofun, rfl, .inl fun _ _ => List.not_mem_nil⟩

/-- A request for extensions is one that parses as such. -/
theorem parse_of_readFrame {exts : List UInt16} {frame : L.Frame} {msg : RequestExtensions}
    (h : readFrame L exts frame = .negotiate msg) : ∃ tlvFields,
      L.parseMessageFrameWithTlvs frame exts = some (.requestExtensions msg, tlvFields) := by
  unfold readFrame at h
  split at h
  · cases h
  · split at h
    · cases h
    · cases h
    · rename_i tlvFields _ hparsed
      cases h
      exact ⟨tlvFields, hparsed⟩
    · cases h

/-- The next frame of a session. -/
theorem Sound.take {frames : List L.Frame} {s : Session L} (h : Sound cfg frames s)
    (frame : L.Frame) : Sound cfg (frames ++ [frame]) (s.take cfg frame) := by
  have hrequested : (∀ id exts, .requestExtensionsSuccess id exts ∉ s.replies) ∨
      ∃ frame' ∈ frames ++ [frame], ∃ exts msg tlvFields,
        L.parseMessageFrameWithTlvs frame' exts = some (.requestExtensions msg, tlvFields) ∧
          msg.Accepted cfg ∧ s.negotiated = msg.common cfg :=
    h.requested.imp_right fun ⟨frame', hmem, hmsg⟩ =>
      ⟨frame', List.mem_append_left _ hmem, hmsg⟩
  unfold Session.take
  cases hphase : s.phase with
  | awaitingSetup =>
    rw [h.awaiting hphase]
    unfold setUp
    cases readSetup L _ frame with
    | none => exact ⟨nofun, nofun, rfl, .inl fun _ _ => List.not_mem_nil⟩
    | some msg =>
      simp only
      split
      · exact ⟨nofun, fun _ => ⟨_, rfl⟩, rfl, .inl fun _ _ => by simp [new]⟩
      · exact ⟨nofun, nofun, rfl, .inl fun _ _ => by simp [new]⟩
  | established =>
    obtain ⟨flags, hfirst⟩ := h.first hphase
    have hhead : ∀ msgs, (s.replies ++ msgs).head? = some (.setupConnectionSuccess 2 flags) := by
      intro msgs
      rw [List.head?_append, hfirst]
      rfl
    have hnot : ∀ {P : Prop}, s.phase = .awaitingSetup → P := by
      intro P hawaiting
      rw [hphase] at hawaiting
      cases hawaiting
    simp only
    cases hread : readFrame L s.negotiated frame with
    | forward msg => exact ⟨nofun, fun _ => ⟨flags, hfirst⟩, h.told, hrequested⟩
    | nothing => exact ⟨hnot, fun _ => ⟨flags, hfirst⟩, h.told, hrequested⟩
    | hangUp => exact ⟨nofun, nofun, h.told, hrequested⟩
    | negotiate msg =>
      obtain ⟨tlvFields, hparsed⟩ := parse_of_readFrame hread
      simp only [negotiate]
      split
      · rename_i haccepted
        exact ⟨hnot, fun _ => ⟨flags, hhead _⟩, by simp [lastNegotiated],
          .inr ⟨frame, by simp, s.negotiated, msg, tlvFields, hparsed, haccepted, rfl⟩⟩
      · refine ⟨fun hawaiting => ?_, fun _ => ⟨flags, hhead _⟩, ?_,
          hrequested.imp_left fun hnone id exts => by simpa using hnone id exts⟩
        · simp only at hawaiting
          split at hawaiting
          · exact hnot hawaiting
          · cases hawaiting
        · simp only [lastNegotiated, List.foldl_append, List.foldl_cons, List.foldl_nil]
          exact h.told
  | finished =>
    refine ⟨fun hawaiting => ?_, fun hestablished => ?_, h.told, hrequested⟩
    · rw [hphase] at hawaiting
      cases hawaiting
    · rw [hphase] at hestablished
      cases hestablished

/-- **Every session** is sound. -/
theorem sound_session (frames : List L.Frame) : Sound cfg frames (session cfg frames) := by
  induction frames using List.reverseRecOn with
  | nil => exact sound_new
  | append_singleton frames frame ih =>
    rw [session_append_singleton]
    exact ih.take frame

end Session

namespace DownstreamTask

variable {c c' : DownstreamTask L} {a : TaskAction L} {r : Handled L}
  {handled : List L.Frame} {relayed : List (L.Mining × Option (List L.Tlv))}

/-- The messages of the manager, as they are put out. -/
def relays (relayed : List (L.Mining × Option (List L.Tlv))) : List (ServerMessage L.Mining) :=
  relayed.map fun msg => .mining msg.1

/-- **What the task has done** with the frames `handled` and the messages `relayed`: these are
all it took but the last, and all it took if it goes on. -/
structure FollowsSession (cfg : ExtensionConfig) (c : DownstreamTask L) (handled : List L.Frame)
    (relayed : List (L.Mining × Option (List L.Tlv))) : Prop where
  taken : ∃ last, c.downstreamReceiver.received = handled ++ last ∧ last.length ≤ 1
  takenMessages : ∃ last, c.channelManagerReceiver.received = relayed ++ last ∧ last.length ≤ 1
  forwarded : c.channelManagerSender.sent = (session cfg handled).forwarded
  putOut : Interleave (session cfg handled).replies (relays relayed) c.downstreamSender.sent
  first : c.downstreamSender.sent.head? = (session cfg handled).replies.head?
  settingUp : c.phase = .settingUp → c.downstreamReceiver.received = [] ∧
    c.channelManagerReceiver.received = [] ∧ Agrees (session cfg handled) c
  going : c.Going → c.downstreamReceiver.received = handled ∧
    c.channelManagerReceiver.received = relayed ∧
      (session cfg handled).phase = .established ∧ Agrees (session cfg handled) c

theorem followsSession_of_started (h : Started c) : FollowsSession cfg c [] [] := by
  refine ⟨⟨[], by simp [h.downstreamReceiver]⟩, ⟨[], by simp [h.channelManagerReceiver]⟩,
    h.channelManagerSender, ?_, by simp [h.downstreamSender, session, Session.new], fun _ => ?_,
    fun hgoing => ?_⟩
  · rw [h.downstreamSender]
    exact .nil
  · exact ⟨by simp [h.downstreamReceiver], by simp [h.channelManagerReceiver],
      h.requiresStandardJobs, h.requiresCustomWork, h.negotiatedExtensions⟩
  · obtain ⟨point, hphase, -⟩ := hgoing
    rw [h.phase] at hphase
    cases hphase

/-- A step that handles nothing. -/
theorem FollowsSession.of_idles (h : FollowsSession cfg c handled relayed) (hidle : Idles c c')
    (hsettingUp : c'.phase = .settingUp → c.phase = .settingUp)
    (hgoing : c'.Going → c.Going) : FollowsSession cfg c' handled relayed := by
  have hagrees : ∀ {s : Session L}, Agrees s c → Agrees s c' := fun hs =>
    ⟨hidle.requiresStandardJobs.trans hs.requiresStandardJobs,
      hidle.requiresCustomWork.trans hs.requiresCustomWork,
      hidle.negotiatedExtensions.trans hs.negotiatedExtensions⟩
  refine ⟨?_, ?_, hidle.channelManagerSent.trans h.forwarded, ?_, ?_, fun hc' => ?_,
    fun hc' => ?_⟩
  · rw [hidle.downstreamReceived]
    exact h.taken
  · rw [hidle.channelManagerReceived]
    exact h.takenMessages
  · rw [hidle.downstreamSent]
    exact h.putOut
  · rw [hidle.downstreamSent]
    exact h.first
  · obtain ⟨hframes, hmsgs, hs⟩ := h.settingUp (hsettingUp hc')
    exact ⟨hidle.downstreamReceived.trans hframes, hidle.channelManagerReceived.trans hmsgs,
      hagrees hs⟩
  · obtain ⟨hframes, hmsgs, hphase, hs⟩ := h.going (hgoing hc')
    exact ⟨hidle.downstreamReceived.trans hframes, hidle.channelManagerReceived.trans hmsgs,
      hphase, hagrees hs⟩

/-- The task may fail to do what is left. -/
theorem FollowsSession.of_ended (h : FollowsSession cfg c handled relayed) (hidle : Idles c c')
    (hsettingUp : c'.phase ≠ .settingUp) (hgoing : ¬c'.Going) :
    FollowsSession cfg c' handled relayed :=
  h.of_idles hidle (fun hc' => absurd hc' hsettingUp) fun hc' => absurd hc' hgoing

/-- **The task has handled a frame.** -/
theorem FollowsSession.of_handledFrame {frame : L.Frame} {channel : Channel L.Frame}
    (h : FollowsSession cfg c handled relayed)
    (hrecv : c.downstreamReceiver.recv = some (frame, channel))
    (hframes : c.downstreamReceiver.received = handled)
    (hmsgs : c.channelManagerReceiver.received = relayed)
    (hhandled : HandledFrame { c with downstreamReceiver := channel } (session cfg handled)
      ((session cfg handled).take cfg frame) r)
    (hfollows : Follows r c') (hsettingUp : c'.phase ≠ .settingUp)
    (hgoing : c'.Going → ((session cfg handled).take cfg frame).phase = .established ∧
      ∀ e, r.2 = some e → e.action = .log) :
    ∃ handled', FollowsSession cfg c' handled' relayed := by
  obtain ⟨hreceived, -⟩ := Channel.of_recv hrecv
  have hframes' : c'.downstreamReceiver.received = handled ++ [frame] := by
    rw [hfollows.downstreamReceiver, hhandled.kept.downstreamReceiver, ← hframes]
    exact hreceived
  have hmsgs' : c'.channelManagerReceiver.received = relayed := by
    rw [hfollows.channelManagerReceiver, hhandled.kept.channelManagerReceiver, ← hmsgs]
  obtain htook | ⟨hsilent, e, he, haction⟩ := hhandled.took
  · obtain ⟨hagrees, ⟨replies, hreplies, hlen, hsent⟩, msgs, hforwarded, hmanager⟩ := htook
    refine ⟨handled ++ [frame], ⟨⟨[], by simp [hframes']⟩, ⟨[], by simp [hmsgs']⟩, ?_, ?_, ?_,
      fun hc' => absurd hc' hsettingUp, fun hc' => ?_⟩⟩
    · rw [hfollows.channelManagerSent, hmanager, session_append_singleton, hforwarded]
      exact congrArg (· ++ msgs) h.forwarded
    · rw [hfollows.downstreamSent, hsent, session_append_singleton, hreplies]
      cases replies with
      | nil =>
        rw [List.append_nil, List.append_nil]
        exact h.putOut
      | cons reply rest =>
        have hrest : rest = [] := by
          rw [List.length_cons] at hlen
          exact List.length_eq_zero_iff.1 (by omega)
        rw [hrest]
        exact h.putOut.left
    · rw [hfollows.downstreamSent, hsent, session_append_singleton, hreplies,
        List.head?_append, List.head?_append]
      exact congrArg (·.or replies.head?) h.first
    · rw [session_append_singleton]
      exact ⟨hframes', hmsgs', (hgoing hc').1, hfollows.requiresStandardJobs.trans
        hagrees.requiresStandardJobs, hfollows.requiresCustomWork.trans
        hagrees.requiresCustomWork, hfollows.negotiatedExtensions.trans
        hagrees.negotiatedExtensions⟩
  · refine ⟨handled, ⟨⟨[frame], hframes', Nat.le_refl 1⟩, ⟨[], by simp [hmsgs']⟩, ?_, ?_, ?_,
      fun hc' => absurd hc' hsettingUp, fun hc' => absurd ((hgoing hc').2 e he) haction⟩⟩
    · rw [hfollows.channelManagerSent, hsilent.channelManagerSender]
      exact h.forwarded
    · rw [hfollows.downstreamSent, hsilent.downstreamSender]
      exact h.putOut
    · rw [hfollows.downstreamSent, hsilent.downstreamSender]
      exact h.first

/-- **The task has taken a message of the manager.** -/
theorem FollowsSession.of_message (h : FollowsSession cfg c handled relayed)
    (hphase : c.phase = .selecting .noFrame) :
    ∃ relayed', FollowsSession cfg (afterHandler c.handleChannelManagerMessage) handled
      relayed' := by
  have hgoing : c.Going := ⟨.noFrame, hphase, nofun⟩
  obtain ⟨hframes, hmsgs, hestablished, hagrees⟩ := h.going hgoing
  have hfollows := follows_afterHandler c.handleChannelManagerMessage
  have hsettingUp := afterHandler_ne_settingUp c.handleChannelManagerMessage
  have hends := going_afterHandler (r := c.handleChannelManagerMessage)
  generalize afterHandler c.handleChannelManagerMessage = c' at hfollows hsettingUp hends ⊢
  have hrelayed := relayedMessage_handleChannelManagerMessage c
  generalize c.handleChannelManagerMessage = r at hfollows hends hrelayed
  cases hrelayed with
  | nothing hr =>
    subst hr
    refine ⟨relayed, h.of_ended hfollows.toIdles hsettingUp fun hc' => ?_⟩
    obtain hnone | ⟨e, he, hlog⟩ := hends hc'
    · cases hnone
    · cases he
      cases hlog
  | @sent msg channel sender hreceived hsent hr =>
    subst hr
    have hmsgs' : c'.channelManagerReceiver.received = relayed ++ [msg] :=
      hfollows.channelManagerReceived.trans (hmsgs ▸ hreceived)
    have hframes' : c'.downstreamReceiver.received = handled :=
      hfollows.downstreamReceived.trans hframes
    have hsent' : c'.downstreamSender.sent = c.downstreamSender.sent ++ [.mining msg.1] :=
      hfollows.downstreamSent.trans hsent
    refine ⟨relayed ++ [msg], ⟨⟨[], by simp [hframes']⟩, ⟨[], by simp [hmsgs']⟩,
      hfollows.channelManagerSent.trans h.forwarded, ?_, ?_,
      fun hc' => absurd hc' hsettingUp, fun _ => ⟨hframes', hmsgs', hestablished, ?_⟩⟩⟩
    · have hrelays : relays (relayed ++ [msg]) = relays relayed ++ [.mining msg.1] := by
        simp [relays]
      rw [hsent', hrelays]
      exact h.putOut.right
    · obtain ⟨flags, hflags⟩ := (Session.sound_session handled).first hestablished
      rw [hsent', List.head?_append, h.first, hflags]
      rfl
    · exact ⟨hfollows.requiresStandardJobs.trans hagrees.requiresStandardJobs,
        hfollows.requiresCustomWork.trans hagrees.requiresCustomWork,
        hfollows.negotiatedExtensions.trans hagrees.negotiatedExtensions⟩
  | @failed msg channel e hreceived he hr =>
    subst hr
    have hmsgs' : c'.channelManagerReceiver.received = relayed ++ [msg] :=
      hfollows.channelManagerReceived.trans (hmsgs ▸ hreceived)
    have hframes' : c'.downstreamReceiver.received = handled :=
      hfollows.downstreamReceived.trans hframes
    refine ⟨relayed, ⟨⟨[], by simp [hframes']⟩, ⟨[msg], hmsgs', Nat.le_refl 1⟩,
      hfollows.channelManagerSent.trans h.forwarded, ?_, ?_,
      fun hc' => absurd hc' hsettingUp, fun hc' => ?_⟩⟩
    · rw [hfollows.downstreamSent]
      exact h.putOut
    · rw [hfollows.downstreamSent]
      exact h.first
    · obtain hnone | ⟨e', he', hlog⟩ := hends hc'
      · cases hnone
      · cases he'
        exact absurd hlog he

/-- **The task sets up** what the session sets up. -/
theorem FollowsSession.of_setUp (h : FollowsSession cfg c handled relayed)
    (hphase : c.phase = .settingUp) :
    ∃ handled', FollowsSession cfg (afterSetup c.setupConnectionWithDownstream) handled'
      relayed := by
  obtain ⟨hframes, hmsgs, hagrees⟩ := h.settingUp hphase
  have hhandled : handled = [] := by
    obtain ⟨last, htaken, -⟩ := h.taken
    exact (List.append_eq_nil_iff.1 (htaken.symm.trans hframes)).1
  have hrelayed : relayed = [] := by
    obtain ⟨last, htaken, -⟩ := h.takenMessages
    exact (List.append_eq_nil_iff.1 (htaken.symm.trans hmsgs)).1
  have hfollows := follows_afterSetup c.setupConnectionWithDownstream
  have hsettingUp := afterSetup_ne_settingUp c.setupConnectionWithDownstream
  have hgoing := going_afterSetup (r := c.setupConnectionWithDownstream)
  cases hrecv : c.downstreamReceiver.recv with
  | none =>
    have hfailed : c.setupConnectionWithDownstream = (c, some ⟨.channelRecv, .disconnect⟩) := by
      unfold setupConnectionWithDownstream
      rw [hrecv]
    rw [hfailed] at hfollows hsettingUp hgoing ⊢
    exact ⟨handled, h.of_ended hfollows.toIdles hsettingUp fun hc' => by cases hgoing hc'⟩
  | some taken =>
    obtain ⟨frame, channel⟩ := taken
    have hhandledFrame : HandledFrame { c with downstreamReceiver := channel }
        (session cfg handled) ((session cfg handled).take cfg frame)
        c.setupConnectionWithDownstream := by
      refine handledFrame_setupConnectionWithDownstream hrecv hagrees ?_
      rw [hhandled]
      rfl
    refine h.of_handledFrame hrecv (hframes.trans hhandled.symm) (hmsgs.trans hrelayed.symm)
      hhandledFrame hfollows hsettingUp fun hc' => ?_
    have hnone := hgoing hc'
    refine ⟨hhandledFrame.going hnone, fun e he => ?_⟩
    rw [hnone] at he
    cases he

/-- **The task handles a frame** as the session does. -/
theorem FollowsSession.of_frame (h : FollowsSession cfg c handled relayed)
    (hphase : c.phase = .selecting .notCancelled) :
    ∃ handled', FollowsSession cfg (afterHandler (c.handleDownstreamMessage cfg)) handled'
      relayed := by
  obtain ⟨hframes, hmsgs, hestablished, hagrees⟩ := h.going ⟨.notCancelled, hphase, nofun⟩
  have hfollows := follows_afterHandler (c.handleDownstreamMessage cfg)
  have hsettingUp := afterHandler_ne_settingUp (c.handleDownstreamMessage cfg)
  have hgoing := going_afterHandler (r := c.handleDownstreamMessage cfg)
  cases hrecv : c.downstreamReceiver.recv with
  | none =>
    have hfailed : c.handleDownstreamMessage cfg = (c, some ⟨.channelRecv, .disconnect⟩) := by
      unfold handleDownstreamMessage
      rw [hrecv]
    rw [hfailed] at hfollows hsettingUp hgoing ⊢
    refine ⟨handled, h.of_ended hfollows.toIdles hsettingUp fun hc' => ?_⟩
    obtain hnone | ⟨e, he, hlog⟩ := hgoing hc'
    · cases hnone
    · cases he
      cases hlog
  | some taken =>
    obtain ⟨frame, channel⟩ := taken
    have hhandledFrame : HandledFrame { c with downstreamReceiver := channel }
        (session cfg handled) ((session cfg handled).take cfg frame)
        (c.handleDownstreamMessage cfg) :=
      handledFrame_handleDownstreamMessage hrecv hagrees hestablished
    refine h.of_handledFrame hrecv hframes hmsgs hhandledFrame hfollows hsettingUp fun hc' => ?_
    obtain hnone | ⟨e, he, hlog⟩ := hgoing hc'
    · refine ⟨hhandledFrame.going hnone, fun e he => ?_⟩
      rw [hnone] at he
      cases he
    · refine ⟨hhandledFrame.logged e he hlog hestablished, fun e' he' => ?_⟩
      rw [he] at he'
      cases he'
      exact hlog

/-! ## Runs -/

/-- Only the frame and the message handlers change what the task has done. -/
theorem FollowsSession.step (h : FollowsSession cfg c handled relayed)
    (hstep : TaskStep cfg c a c') :
    ∃ handled' relayed', FollowsSession cfg c' handled' relayed' := by
  cases hstep with
  | around ha haround =>
    refine ⟨handled, relayed, h.of_idles haround.toIdles (fun hc' => ?_) fun hc' => ?_⟩
    · rw [← haround.phase]
      exact hc'
    · obtain ⟨point, hphase, hstart⟩ := hc'
      refine ⟨point, haround.phase.symm.trans hphase, fun hpoint => ?_⟩
      by_contra hcancelled
      rw [Bool.not_eq_false] at hcancelled
      rw [haround.globalCancelled hcancelled] at hstart
      cases hstart hpoint
  | own hown =>
    have hends : ∀ {c' : DownstreamTask L}, Idles c c' → c'.phase ≠ .settingUp →
        (∀ point, c'.phase ≠ .selecting point) →
        ∃ handled' relayed', FollowsSession cfg c' handled' relayed' := fun hidle hne hleft =>
      ⟨handled, relayed, h.of_ended hidle hne fun ⟨point, hpoint, _⟩ => hleft point hpoint⟩
    have hidle : ∀ {disconnects : ℕ} {cancelled : Bool} {q : TaskPhase}, Idles c { c with
        phase := q, disconnects := disconnects, connectionCancelled := cancelled } :=
      ⟨rfl, rfl, rfl, rfl, rfl, rfl, rfl, id⟩
    have hclose : ∀ {q : TaskPhase}, Idles c { c.close with phase := q } :=
      ⟨rfl, rfl, rfl, rfl, rfl, rfl, rfl, id⟩
    cases hown with
    | setUp hphase hready =>
      obtain ⟨handled', h'⟩ := h.of_setUp hphase
      exact ⟨handled', relayed, h'⟩
    | frame hphase hready =>
      obtain ⟨handled', h'⟩ := h.of_frame hphase
      exact ⟨handled', relayed, h'⟩
    | message hphase hready =>
      obtain ⟨relayed', h'⟩ := h.of_message hphase
      exact ⟨handled, relayed', h'⟩
    | setupReported hphase =>
      exact hends (follows_handleErrorAction (c, none) _ _).toIdles nofun nofun
    | setupDisconnected hphase => exact hends hidle nofun nofun
    | setupClosed hphase => exact hends hclose nofun nofun
    | cancelled hphase => exact hends hidle nofun nofun
    | closed hphase => exact hends hclose nofun nofun
    | disconnected hphase => exact hends hidle nofun nofun
    | polled hphase =>
      refine ⟨handled, relayed, h.of_idles hidle (fun hc' => ?_) fun hc' => ?_⟩
      · simp only at hc'
        split at hc' <;> cases hc'
      · obtain ⟨point, hpoint, -⟩ := hc'
        refine ⟨.start, hphase, fun _ => ?_⟩
        by_contra hcancelled
        rw [Bool.not_eq_false] at hcancelled
        simp only [hcancelled, if_true] at hpoint
        cases hpoint
    | noFrame hphase hpending =>
      exact ⟨handled, relayed, h.of_idles hidle nofun fun _ => ⟨.notCancelled, hphase, nofun⟩⟩
    | noMessage hphase hpending =>
      exact ⟨handled, relayed, h.of_idles hidle nofun fun _ => ⟨.noFrame, hphase, nofun⟩⟩

/-- The task has done what the session does with all frames and messages it took, but
possibly the last of each. -/
theorem followsSession_of_run {ts : List (Transition (DownstreamTask L) (TaskAction L))}
    (h : Run Started (Computes (next cfg)) ts c) :
    ∃ handled relayed, FollowsSession cfg c handled relayed := by
  refine h.invariant (I := fun c => ∃ handled relayed, FollowsSession cfg c handled relayed)
    (fun c hc => ⟨[], [], followsSession_of_started hc⟩) ?_
  intro c a c' ⟨handled, relayed, hc⟩ hnext
  exact hc.step (taskStep_of_next hnext)

/-- **The task does what the session does**, in every run.  The frames `handled` and the
messages `relayed` are all it took but possibly the last of each, and all if it goes on.  It
has forwarded what the session of these frames forwards, it has put out the answers of this
session merged with these messages, and the first thing it put out is the first answer. -/
theorem session_of_run {ts : List (Transition (DownstreamTask L) (TaskAction L))}
    (h : Run Started (Computes (next cfg)) ts c) :
    ∃ handled lastFrame relayed lastMessage,
      c.downstreamReceiver.received = handled ++ lastFrame ∧ lastFrame.length ≤ 1 ∧
      c.channelManagerReceiver.received = relayed ++ lastMessage ∧ lastMessage.length ≤ 1 ∧
      (c.Going → lastFrame = [] ∧ lastMessage = []) ∧
      c.channelManagerSender.sent = (session cfg handled).forwarded ∧
      Interleave (session cfg handled).replies (relays relayed) c.downstreamSender.sent ∧
      c.downstreamSender.sent.head? = (session cfg handled).replies.head? := by
  obtain ⟨handled, relayed, hfollows⟩ := followsSession_of_run h
  obtain ⟨lastFrame, hframes, hframe⟩ := hfollows.taken
  obtain ⟨lastMessage, hmessages, hmessage⟩ := hfollows.takenMessages
  refine ⟨handled, lastFrame, relayed, lastMessage, hframes, hframe, hmessages, hmessage,
    fun hgoing => ?_, hfollows.forwarded, hfollows.putOut, hfollows.first⟩
  obtain ⟨hall, hallMessages, -⟩ := hfollows.going hgoing
  rw [hframes] at hall
  rw [hmessages] at hallMessages
  exact ⟨by simpa using hall, by simpa using hallMessages⟩

theorem session_of_run_table : ∃ handled lastFrame relayed lastMessage,
    (tableAfter tableForwards).downstreamReceiver.received = handled ++ lastFrame ∧
    lastFrame.length ≤ 1 ∧
    (tableAfter tableForwards).channelManagerReceiver.received = relayed ++ lastMessage ∧
    lastMessage.length ≤ 1 ∧
    ((tableAfter tableForwards).Going → lastFrame = [] ∧ lastMessage = []) ∧
    (tableAfter tableForwards).channelManagerSender.sent =
      (session tableExtensions handled).forwarded ∧
    Interleave (session tableExtensions handled).replies (relays relayed)
      (tableAfter tableForwards).downstreamSender.sent ∧
    (tableAfter tableForwards).downstreamSender.sent.head? =
      (session tableExtensions handled).replies.head? :=
  session_of_run (tableRun tableForwards (by rfl))

end DownstreamTask

end CanaryMining
