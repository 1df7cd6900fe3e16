import CanaryMining.Downstream.Follows

/-!
# What both sides agree on

A mining message is parsed under the extensions that were negotiated.  The peer knows them
from the last `RequestExtensionsSuccess`, so both sides read the fields of a message alike;
and nothing is forwarded to the manager for a peer that was not told that its connection is
set up.

## Main definitions

* `DownstreamTask.ForwardedFrame` — a frame whose message is forwarded.
* `DownstreamTask.Forwards` — what a step may forward.

**Main result:** `DownstreamTask.agreed_of_run`.
-/

namespace CanaryMining

variable {L : FrameLib} {cfg : ExtensionConfig}

namespace Session

theorem forwarded_setUp (s : Session L) (msg : Option SetupConnection) :
    (s.setUp msg).forwarded = s.forwarded := by
  unfold setUp
  split
  · rfl
  · split <;> rfl

/-- What a frame that is forwarded was read as. -/
theorem of_readFrame {exts : List UInt16} {frame : L.Frame}
    {msg : L.Mining × Option (List L.Tlv)} (h : readFrame L exts frame = .forward msg) :
    (∃ header, L.getHeader frame = some header ∧
      L.protocolMessageType header.extType header.msgType = .mining) ∧
        L.parseMessageFrameWithTlvs frame exts = some (.mining msg.1, msg.2) := by
  unfold readFrame at h
  split at h
  · cases h
  · rename_i header hheader
    split at h
    · rename_i message tlvFields hmining hparsed
      cases h
      exact ⟨⟨header, hheader, hmining⟩, hparsed⟩
    · cases h
    · cases h
    · cases h

/-- A frame is forwarded, or nothing is. -/
theorem forwarded_take {s : Session L} (hphase : s.phase = .established) (frame : L.Frame) :
    (s.take cfg frame).forwarded = s.forwarded ∨
      ∃ msg, (s.take cfg frame).forwarded = s.forwarded ++ [msg] ∧
        readFrame L s.negotiated frame = .forward msg := by
  unfold Session.take
  simp only [hphase]
  cases hread : readFrame L s.negotiated frame with
  | forward msg => exact .inr ⟨msg, rfl, rfl⟩
  | negotiate msg =>
    refine .inl ?_
    simp only [negotiate]
    split <;> rfl
  | nothing => exact .inl rfl
  | hangUp => exact .inl rfl

end Session

namespace DownstreamTask

variable {c c' : DownstreamTask L} {a : TaskAction L} {handled : List L.Frame}
  {relayed : List (L.Mining × Option (List L.Tlv))}

/-- The manager's messages say nothing of extensions. -/
theorem FollowsSession.lastNegotiated_sent (h : FollowsSession cfg c handled relayed) :
    lastNegotiated c.downstreamSender.sent = (session cfg handled).negotiated := by
  rw [(Session.sound_session handled).told]
  refine h.putOut.foldl_eq fun msg hmsg told => ?_
  obtain ⟨relay, -, rfl⟩ := List.mem_map.1 hmsg
  rfl

/-- What was put out as an accepted request is an answer of the session. -/
theorem FollowsSession.success_mem_replies (h : FollowsSession cfg c handled relayed)
    {id : UInt16} {exts : List UInt16}
    (hsent : .requestExtensionsSuccess id exts ∈ c.downstreamSender.sent) :
    .requestExtensionsSuccess id exts ∈ (session cfg handled).replies := by
  refine (h.putOut.mem_or_mem hsent).resolve_right fun hrelay => ?_
  obtain ⟨msg, -, heq⟩ := List.mem_map.1 hrelay
  cases heq

/-- A frame whose message is forwarded: the peer was told that it is set up, and the message
is parsed under the extensions that the peer was told of last, if it was told of any. -/
structure ForwardedFrame (cfg : ExtensionConfig) (c : DownstreamTask L) (frame : L.Frame)
    (msg : L.Mining × Option (List L.Tlv)) : Prop where
  isSetUp : ∃ flags, c.downstreamSender.sent.head? = some (.setupConnectionSuccess 2 flags)
  isMining : ∃ header, L.getHeader frame = some header ∧
    L.protocolMessageType header.extType header.msgType = .mining
  parsed : L.parseMessageFrameWithTlvs frame (lastNegotiated c.downstreamSender.sent) =
    some (.mining msg.1, msg.2)
  requested : (∀ id exts, .requestExtensionsSuccess id exts ∉ c.downstreamSender.sent) ∨
    ∃ earlier ∈ c.downstreamReceiver.received, ∃ exts request tlvFields,
      L.parseMessageFrameWithTlvs earlier exts = some (.requestExtensions request, tlvFields) ∧
        request.Accepted cfg ∧
          lastNegotiated c.downstreamSender.sent = request.common cfg

/-- What a step may forward. -/
def Forwards (cfg : ExtensionConfig) (c c' : DownstreamTask L) : Prop :=
  c'.channelManagerSender.sent = c.channelManagerSender.sent ∨ ∃ frame msg,
    c'.channelManagerSender.sent = c.channelManagerSender.sent ++ [msg] ∧
      c'.downstreamReceiver.received = c.downstreamReceiver.received ++ [frame] ∧
        ForwardedFrame cfg c frame msg

/-- Setting up forwards nothing. -/
theorem FollowsSession.channelManagerSent_setUp (h : FollowsSession cfg c handled relayed)
    (hphase : c.phase = .settingUp) :
    (afterSetup c.setupConnectionWithDownstream).channelManagerSender.sent =
      c.channelManagerSender.sent := by
  obtain ⟨hframes, -, hagrees⟩ := h.settingUp hphase
  have hhandled : handled = [] := by
    obtain ⟨last, htaken, -⟩ := h.taken
    exact (List.append_eq_nil_iff.1 (htaken.symm.trans hframes)).1
  refine (follows_afterSetup c.setupConnectionWithDownstream).channelManagerSent.trans ?_
  cases hrecv : c.downstreamReceiver.recv with
  | none =>
    unfold setupConnectionWithDownstream
    rw [hrecv]
  | some taken =>
    obtain ⟨frame, channel⟩ := taken
    rw [hhandled] at hagrees
    obtain ⟨-, htook, -, -⟩ := @handledFrame_setupConnectionWithDownstream L cfg _ _ _ _ hrecv
      hagrees rfl
    obtain htook | ⟨hsilent, -⟩ := htook
    · obtain ⟨msgs, hforwarded, hmanager⟩ := htook.forwarded
      have hnone : (session cfg []).forwarded = (session cfg []).forwarded ++ msgs :=
        (Session.forwarded_setUp _ _).symm.trans hforwarded
      rw [List.self_eq_append_right.1 hnone, List.append_nil] at hmanager
      exact hmanager
    · exact hsilent.channelManagerSender

/-- A frame that is forwarded. -/
theorem FollowsSession.forwards_frame (h : FollowsSession cfg c handled relayed)
    (hphase : c.phase = .selecting .notCancelled) :
    Forwards cfg c (afterHandler (c.handleDownstreamMessage cfg)) := by
  obtain ⟨hframes, -, hestablished, hagrees⟩ := h.going ⟨.notCancelled, hphase, nofun⟩
  have hfollows := follows_afterHandler (c.handleDownstreamMessage cfg)
  cases hrecv : c.downstreamReceiver.recv with
  | none =>
    refine .inl (hfollows.channelManagerSent.trans ?_)
    unfold handleDownstreamMessage
    rw [hrecv]
  | some taken =>
    obtain ⟨frame, channel⟩ := taken
    obtain ⟨hkept, htook, -, -⟩ := @handledFrame_handleDownstreamMessage L cfg _ _ _ _ hrecv
      hagrees hestablished
    obtain htook | ⟨hsilent, -⟩ := htook
    · obtain ⟨msgs, hforwarded, hmanager⟩ := htook.forwarded
      have hmanager' := hfollows.channelManagerSent.trans hmanager
      obtain heq | ⟨msg, heq, hread⟩ := @Session.forwarded_take L cfg _ hestablished frame
      · have hnone : (session cfg handled).forwarded = (session cfg handled).forwarded ++ msgs :=
          heq.symm.trans hforwarded
        rw [List.self_eq_append_right.1 hnone, List.append_nil] at hmanager'
        exact .inl hmanager'
      · have hmsgs : msgs = [msg] := List.append_cancel_left (hforwarded.symm.trans heq)
        rw [hmsgs] at hmanager'
        have hsound := @Session.sound_session L cfg handled
        obtain ⟨flags, hflags⟩ := hsound.first hestablished
        obtain ⟨hmining, hparsed⟩ := Session.of_readFrame hread
        have hreceived : (afterHandler (c.handleDownstreamMessage cfg)).downstreamReceiver.received
            = c.downstreamReceiver.received ++ [frame] := by
          rw [hfollows.downstreamReceived, hkept.downstreamReceiver]
          exact (Channel.of_recv hrecv).1
        refine .inr ⟨frame, msg, hmanager', hreceived, ⟨flags, h.first.trans hflags⟩, hmining, ?_,
          ?_⟩
        · rw [h.lastNegotiated_sent]
          exact hparsed
        · rw [h.lastNegotiated_sent, hframes]
          exact hsound.requested.imp_left fun hnone id exts hsent =>
            hnone id exts (h.success_mem_replies hsent)
    · exact .inl (hfollows.channelManagerSent.trans hsilent.channelManagerSender)

/-- A message of the manager is not forwarded back. -/
theorem channelManagerSent_relay (c : DownstreamTask L) :
    c.handleChannelManagerMessage.1.channelManagerSender.sent = c.channelManagerSender.sent := by
  have hrelayed := relayedMessage_handleChannelManagerMessage c
  generalize c.handleChannelManagerMessage = r at hrelayed ⊢
  cases hrelayed with
  | nothing hr | sent _ _ hr | failed _ _ hr => rw [hr]

/-- What a step forwards. -/
theorem FollowsSession.forwards (h : FollowsSession cfg c handled relayed)
    (hstep : TaskStep cfg c a c') : Forwards cfg c c' := by
  cases hstep with
  | around ha haround => exact .inl haround.channelManagerSent
  | own hown =>
    cases hown with
    | setUp hphase hready => exact .inl (h.channelManagerSent_setUp hphase)
    | frame hphase hready => exact h.forwards_frame hphase
    | message hphase hready =>
      have hfollows := follows_afterHandler c.handleChannelManagerMessage
      exact .inl (hfollows.channelManagerSent.trans (channelManagerSent_relay c))
    | setupReported hphase =>
      exact .inl (follows_handleErrorAction (c, none) _ _).channelManagerSent
    | _ => exact .inl rfl

/-- **Both sides agree**, in every run: a step forwards nothing, or the message of the frame it
takes.  Then the peer was told before that its connection is set up, and the message was
parsed under the extensions it was told of last, if any; these are what the pool supports of
an earlier request of the peer, which lacked nothing that the pool requires. -/
theorem agreed_of_run {ts : List (Transition (DownstreamTask L) (TaskAction L))}
    (h : Run Started (Computes (next cfg)) ts c) :
    ∀ t ∈ ts, Forwards cfg t.before t.after := by
  have hall := h.forall_transition_of (P := fun _ => True)
    (I := fun c => ∃ handled relayed, FollowsSession cfg c handled relayed)
    (fun c hc => ⟨[], [], followsSession_of_started hc⟩)
    (fun c a c' ⟨handled, relayed, hc⟩ hnext _ => hc.step (taskStep_of_next hnext))
    fun _ _ => trivial
  intro t ht
  obtain ⟨⟨handled, relayed, hbefore⟩, hnext, -⟩ := hall t ht
  exact hbefore.forwards (taskStep_of_next hnext)

theorem agreed_of_run_table :
    Forwards tableExtensions (tableAfter tableWaits) (tableAfter tableForwards) :=
  agreed_of_run (tableRun tableForwards (by rfl))
    ⟨tableAfter tableWaits, .task, tableAfter tableForwards⟩ (List.mem_of_getLast? (by rfl))

end DownstreamTask

end CanaryMining
