import CanaryMining.Manager.PoolServer

/-!
# What reaches the connections

Whatever the order in which the tasks take their steps, a connection whose channel is open
is told, in order and once, everything the manager has to say to it; and no channel is without
its controller, so that no connection is told to close one.

## Main definitions

* `PoolServer.newMessages`, `PoolServer.messagesFor` — what the manager says in a run.

**Main results:** `PoolServer.covered_of_run`, `PoolServer.delivered_of_run`.
-/

namespace CanaryMining

variable {F : Type} {X : ChannelsSv2 F} {Addr : Type}

namespace PoolServer

/-- What the manager says in a step. -/
def newMessages (V : VardiffLib X) (t : Transition (PoolServer X) (PoolServerAction X)) :
    List (RouteMessageTo X) :=
  match t.action with
  | .server _ => t.after.server.sent
  | .runVardiff order => (runVardiff V order t.before.server.manager).2
  | _ => []

/-- What the manager says to a connection in a run. -/
def messagesFor (V : VardiffLib X) (d : DownstreamId)
    (ts : List (Transition (PoolServer X) (PoolServerAction X))) : List (Mining X) :=
  ts.flatMap fun t => sentTo d (newMessages V t)

variable [Double F] {cfg : ManagerConfig F} {lib : AddressLib Addr} {V : VardiffLib X}
  {s s' : PoolServer X} {a : PoolServerAction X}
  {ts : List (Transition (PoolServer X) (PoolServerAction X))} {d : DownstreamId}

theorem consistent_of_run (hX : X.Laws) (hG : X.GroupLaws)
    (h : Run Started (Computes (next cfg lib V)) ts s) : Consistent s :=
  h.invariant (fun _ hstart => hstart.consistent) fun _ _ _ hcon hs => hcon.next hX hG hs

/-! ## What one step puts where -/

/-- A step that only moves messages leaves the server alone. -/
theorem server_of_next (hs : next cfg lib V s a = some s')
    (ha : ∀ b, a ≠ .server b) (ha' : ∀ order, a ≠ .runVardiff order) :
    s'.server = s.server := by
  cases a with
  | server b => exact absurd rfl (ha b)
  | runVardiff order => exact absurd rfl (ha' order)
  | forward =>
    simp only [PoolServer.next] at hs
    split at hs
    · cases hs
    · cases hs
      exact server_forward _
  | insertSender _ | closeReceiver _ | removeSender _ | managerRemovesSender =>
    simp only [PoolServer.next] at hs
    split at hs <;> cases hs
    rfl

/-- What a step does to the messages for a connection: the manager says some if everything
before is forwarded, and they wait in the outbox. -/
structure Says (V : VardiffLib X) (s : PoolServer X) (a : PoolServerAction X)
    (s' : PoolServer X) : Prop where
  phase : ∀ d, (s.server.phase.lookup d).isSome → (s'.server.phase.lookup d).isSome
  outbox : s'.outbox = s.outbox ++ newMessages V ⟨s, a, s'⟩
  sender : s'.downstreamSender = s.downstreamSender
  registered : ∀ d m, .downstream d m ∈ newMessages V ⟨s, a, s'⟩ →
    (s.server.phase.lookup d).isSome

/-- What a step does to the channel of a connection when the manager says nothing. -/
structure Moves (V : VardiffLib X) (s : PoolServer X) (a : PoolServerAction X)
    (s' : PoolServer X) : Prop where
  phase : s'.server = s.server
  nothing : newMessages V ⟨s, a, s'⟩ = []
  sender : ∀ d channel', s'.downstreamSender.lookup d = some channel' →
    (s.server.phase.lookup d = none ∧ channel'.messages = [] ∧ s'.outbox = s.outbox) ∨
    ∃ channel, s.downstreamSender.lookup d = some channel ∧
      (channel'.isOpen → channel.isOpen ∧ channel'.messages ++ sentTo d s'.outbox =
        channel.messages ++ sentTo d s.outbox) ∧
      (channel'.messages = channel.messages ∨ channel.isOpen ∧
        channel'.messages <+: channel.messages ++ sentTo d s.outbox)

/-- **A step says something or moves what was said.** -/
theorem says_or_moves (hX : X.Laws) (hG : X.GroupLaws) (h : Consistent s)
    (hs : next cfg lib V s a = some s') : Says V s a s' ∨ Moves V s a s' := by
  cases a with
  | server a =>
    left
    simp only [PoolServer.next] at hs
    split at hs
    · rename_i hallows
      obtain ⟨server, hserver, rfl⟩ := Option.map_eq_some_iff.1 hs
      obtain ⟨hs', houtbox, hsender⟩ := afterServer_spec (s := s) server a
      have hnew : newMessages V ⟨s, .server a, s.afterServer server a⟩ = server.sent := by
        rw [newMessages, hs']
      rw [← hnew] at houtbox
      cases ha : a.isHandler with
      | true =>
        have hkept := Server.kept_of_handler hX hserver ha
        have hstep := Server.inventory_of_handler hX hG h.covered hserver ha
        refine ⟨fun d hd => ?_, houtbox, hsender, fun d m hm => ?_⟩
        · rw [hs', hkept.phase]
          exact hd
        · rw [hnew] at hm
          exact (h.fits hstep hm).1
      | false =>
        have hsilent := Server.sendsNothing_of_next h.ids h.accepting hserver ha
        refine ⟨fun d hd => ?_, houtbox, hsender, fun d m hm => ?_⟩
        · rw [hs']
          exact hsilent.phase d hd
        · rw [hnew, hsilent.sent] at hm
          cases hm
    · cases hs
  | runVardiff order =>
    left
    simp only [PoolServer.next] at hs
    split at hs
    · cases hs
      refine ⟨fun _ hd => hd, rfl, rfl, fun d m hm => ?_⟩
      have hstep := inventory_runVardiff V order s.server.manager (fun _ => False) fun _ => False
      exact h.registered d ((hstep.fits hm).1.resolve_right id)
    · cases hs
  | insertSender d =>
    right
    simp only [PoolServer.next] at hs
    split at hs
    · rename_i hnew
      cases hs
      refine ⟨rfl, rfl, fun d' channel' hd' => ?_⟩
      rw [AssocMap.lookup_insert_if] at hd'
      split at hd'
      · rename_i heq
        cases hd'
        exact .inl ⟨heq ▸ (h.ids.accepting d hnew.1).2, rfl, rfl⟩
      · exact .inr ⟨channel', hd', fun hopen => ⟨hopen, rfl⟩, .inl rfl⟩
    · cases hs
  | closeReceiver d =>
    right
    simp only [PoolServer.next] at hs
    split at hs
    · cases hs
      refine ⟨rfl, rfl, fun d' channel' hd' => .inr ?_⟩
      rw [AssocMap.lookup_modify, Option.map_eq_some_iff] at hd'
      obtain ⟨channel, hd, rfl⟩ := hd'
      refine ⟨channel, hd, fun hopen => ?_, .inl ?_⟩
      · split at hopen
        · cases hopen
        · rename_i hne
          rw [if_neg hne]
          exact ⟨hopen, rfl⟩
      · split <;> rfl
    · cases hs
  | forward =>
    right
    simp only [PoolServer.next] at hs
    split at hs
    · cases hs
    · rename_i msg outbox houtbox
      cases hs
      refine ⟨server_forward _, rfl, fun d channel' hd => .inr ?_⟩
      obtain ⟨channel, hd, hopen, hmessages⟩ := downstreamSender_forward hd
      have hall : channel.messages ++ sentTo d s.outbox =
          (channel.messages ++ sentTo d [msg]) ++ sentTo d outbox := by
        rw [houtbox, List.append_assoc, ← sentTo_append]
        rfl
      refine ⟨channel, hd, fun hisOpen => ?_, ?_⟩
      · rw [hopen] at hisOpen
        rw [hmessages, if_pos hisOpen, outbox_forward, hall]
        exact ⟨hisOpen, rfl⟩
      · cases hisOpen : channel.isOpen with
        | false => exact .inl (by rw [hmessages, hisOpen]; rfl)
        | true =>
          right
          rw [hmessages, if_pos hisOpen, hall]
          exact ⟨rfl, List.prefix_append _ _⟩
  | removeSender d =>
    right
    simp only [PoolServer.next] at hs
    split at hs
    · cases hs
      refine ⟨rfl, rfl, fun d' channel' hd' => .inr ?_⟩
      rw [AssocMap.lookup_erase_if] at hd'
      split at hd'
      · cases hd'
      · exact ⟨channel', hd', fun hopen => ⟨hopen, rfl⟩, .inl rfl⟩
    · cases hs
  | managerRemovesSender =>
    right
    simp only [PoolServer.next] at hs
    split at hs
    · cases hs
    · cases hs
      refine ⟨rfl, rfl, fun d' channel' hd' => .inr ?_⟩
      rw [AssocMap.lookup_erase_if] at hd'
      split at hd'
      · cases hd'
      · exact ⟨channel', hd', fun hopen => ⟨hopen, rfl⟩, .inl rfl⟩

/-- What the channels hold of what the manager said. -/
structure Holds (V : VardiffLib X) (ts : List (Transition (PoolServer X) (PoolServerAction X)))
    (s : PoolServer X) : Prop where
  unset : ∀ d, s.server.phase.lookup d = none → messagesFor V d ts = []
  isOpen : ∀ d channel, s.downstreamSender.lookup d = some channel → channel.isOpen →
    channel.messages ++ sentTo d s.outbox = messagesFor V d ts
  isPrefix : ∀ d channel, s.downstreamSender.lookup d = some channel →
    channel.messages <+: messagesFor V d ts

omit [Double F] in
theorem messagesFor_append (V : VardiffLib X) (d : DownstreamId)
    (t : Transition (PoolServer X) (PoolServerAction X)) :
    messagesFor V d (ts ++ [t]) = messagesFor V d ts ++ sentTo d (newMessages V t) := by
  simp [messagesFor]

theorem holds_of_run (hX : X.Laws) (hG : X.GroupLaws)
    (h : Run Started (Computes (next cfg lib V)) ts s) : Holds V ts s := by
  induction h with
  | start hstart =>
    refine ⟨fun _ _ => rfl, fun d channel hd => ?_, fun d channel hd => ?_⟩
    all_goals
      rw [hstart.downstreamSender] at hd
      cases hd
  | @next ts s s' a hrun hs ih =>
    have hcon := consistent_of_run hX hG hrun
    rcases says_or_moves hX hG hcon hs with hstep | hmoves
    · refine ⟨fun d hd => ?_, fun d channel hd hopen => ?_, fun d channel hd => ?_⟩
      · -- No connection is told anything before it is registered.
        have hphase : s.server.phase.lookup d = none := by
          rw [← Option.not_isSome_iff_eq_none]
          intro hsome
          have hsome' := hstep.phase d hsome
          rw [hd] at hsome'
          cases hsome'
        rw [messagesFor_append, ih.unset d hphase, List.nil_append]
        refine List.eq_nil_iff_forall_not_mem.2 fun m hm => ?_
        have hsome := hstep.registered d m (mem_sentTo.1 hm)
        rw [hphase] at hsome
        cases hsome
      · rw [hstep.sender] at hd
        rw [hstep.outbox, messagesFor_append, sentTo_append, ← List.append_assoc,
          ih.isOpen d channel hd hopen]
      · rw [hstep.sender] at hd
        rw [messagesFor_append]
        exact (ih.isPrefix d channel hd).trans (List.prefix_append _ _)
    · have hsame : ∀ d, messagesFor V d (ts ++ [⟨s, a, s'⟩]) = messagesFor V d ts := by
        intro d
        rw [messagesFor_append, hmoves.nothing, sentTo_nil, List.append_nil]
      refine ⟨fun d hd => ?_, fun d channel' hd hopen => ?_, fun d channel' hd => ?_⟩
      · rw [hmoves.phase] at hd
        rw [hsame, ih.unset d hd]
      · rw [hsame]
        rcases hmoves.sender d channel' hd with ⟨hphase, hnil, hsame⟩ | ⟨channel, hold, hall, -⟩
        · rw [hnil, hsame, hcon.sentTo_outbox hphase, ih.unset d hphase, List.append_nil]
        · obtain ⟨ho, heq⟩ := hall hopen
          rw [heq, ih.isOpen d channel hold ho]
      · rw [hsame]
        rcases hmoves.sender d channel' hd with ⟨-, hnil, -⟩ | ⟨channel, hold, -, heq | ⟨ho, hpre⟩⟩
        · rw [hnil]
          exact List.nil_prefix
        · rw [heq]
          exact ih.isPrefix d channel hold
        · rw [← ih.isOpen d channel hold ho]
          exact hpre

/-! ## Main results

The first connection of `aliceOpens` is told of its first channel and of a new target for it;
its receiver closes while the messages about the second channel are forwarded.
-/

/-- The channel of the first connection at the end. -/
def aliceChannel : DownstreamChannel tableChannels :=
  ((tableAfter aliceOpens).downstreamSender.lookup 1).getD ⟨[], true⟩

/-- **Nothing is lost, repeated or reordered.**  What was put into the channel of a connection
is the beginning of what the manager said to it in the run, and while the channel is open the
rest is exactly what waits to be forwarded. -/
theorem delivered_of_run (hX : X.Laws) (hG : X.GroupLaws)
    (h : Run Started (Computes (next cfg lib V)) ts s) (d : DownstreamId)
    (channel : DownstreamChannel X) (hd : s.downstreamSender.lookup d = some channel) :
    channel.messages <+: messagesFor V d ts ∧
      (channel.isOpen → channel.messages ++ sentTo d s.outbox = messagesFor V d ts) :=
  ⟨(holds_of_run hX hG h).isPrefix d channel hd, (holds_of_run hX hG h).isOpen d channel hd⟩

/-- Two messages about the second channel are not put into the closed channel. -/
theorem delivered_of_run_table :
    aliceChannel.messages.length = 5 ∧
      (messagesFor tableVardiff 1 (tableTrace aliceOpens)).length = 7 ∧
      aliceChannel.messages <+: messagesFor tableVardiff 1 (tableTrace aliceOpens) :=
  ⟨by decide +kernel, by decide +kernel, (delivered_of_run tableChannels_laws
    tableChannels_groupLaws (tableRun (s := tableAfter aliceOpens) aliceOpens rfl) 1
    aliceChannel rfl).1⟩

end PoolServer

end CanaryMining
