import CanaryMining.Manager.Delivery

/-!
# The numbers of the channels

A connection numbers its channels with a counter of 32 bits that starts after the number of
its group.  A number is taken whenever a message asks for a channel and is not refused
before, whether or not the channel is opened.

## Main definitions

* `openedIds` — the channels that messages open.
* `PoolServer.asked` — how often a connection asked for a channel.
* `Numbering` — what a step does to the counter of a connection.

**Main result:** `PoolServer.openedIds_nodup_of_run`.
-/

namespace CanaryMining

variable {F : Type} {X : ChannelsSv2 F} {Addr : Type}

/-- The channels that messages open. -/
def openedIds (messages : List (Mining X)) : List ChannelId := messages.filterMap Mining.openedId

theorem openedIds_append (messages sent : List (Mining X)) :
    openedIds (messages ++ sent) = openedIds messages ++ openedIds sent :=
  List.filterMap_append

theorem openedIds_eq_nil {messages : List (Mining X)} (h : ∀ m ∈ messages, m.openedId = none) :
    openedIds messages = [] :=
  List.filterMap_eq_nil_iff.2 h

/-- What a step does to the counter of a connection: it stays, or starts when the connection
is registered, or a number is taken, for the channel that is opened if one is. -/
inductive Numbering (asks isNew : Prop) (before after : Option UInt32) (opened : List ChannelId) :
    Prop
  | same : opened = [] → (∀ id, after = some id → before = some id ∨ id = 2 ∧ isNew) →
      Numbering asks isNew before after opened
  | taken (id : ChannelId) : asks → before = some id → after = some (id + 1) →
      opened = [] ∨ opened = [id] → Numbering asks isNew before after opened

section Inventory

variable {opens sends : DownstreamId → Prop} {s s' : ManagerState X}
  {messages : List (RouteMessageTo X)}

theorem openedIds_of_allFit (h : AllFit sends s messages) (d : DownstreamId) :
    openedIds (sentTo d messages) = [] :=
  openedIds_eq_nil fun m hm => Mining.openedId_of_introduced (h d m (mem_sentTo.1 hm)).introduced

/-- A message of the template provider takes no number. -/
theorem Provided.numbering {asks isNew : Prop} (h : Provided s s' messages) (d : DownstreamId) :
    Numbering asks isNew (s.channelIdFactory? d) (s'.channelIdFactory? d)
      (openedIds (sentTo d messages)) := by
  refine .same (openedIds_eq_nil fun m hm => (h.sent d m (mem_sentTo.1 hm)).2.1)
    fun id hid => .inl ?_
  rw [← h.numbers d, hid]

/-- A handler takes a number only for a connection that asks for a channel. -/
theorem Inventory.numbering {isNew : Prop} (h : Inventory opens sends s s' messages)
    (d : DownstreamId) : Numbering (opens d) isNew (s.channelIdFactory? d)
      (s'.channelIdFactory? d) (openedIds (sentTo d messages)) := by
  cases h with
  | kept _ hnumbers hfit =>
    refine .same (openedIds_of_allFit hfit d) fun id hid => .inl ?_
    rw [← hnumbers d, hid]
  | @refused d₀ id hopens _ hnumber hfit =>
    by_cases hd : d = d₀
    · subst hd
      exact .taken id hopens hnumber.taken (by rw [hnumber.next, if_pos rfl])
        (.inl (openedIds_of_allFit hfit d))
    · refine .same (openedIds_of_allFit hfit d) fun id' hid => .inl ?_
      rw [hnumber.next, if_neg hd] at hid
      exact hid
  | @opened d₀ id groupId hopens hopened =>
    obtain ⟨success, started, rfl, hintroduced, -, -, ⟨kind, c, hmade⟩, -⟩ := hopened.messages
    rw [sentTo_map_downstream]
    by_cases hd : d = d₀
    · subst hd
      refine .taken id hopens hopened.number.taken (by rw [hopened.number.next, if_pos rfl])
        (.inr ?_)
      have hsuccess : success.openedId = some id := by rw [Mining.openedId, hintroduced]
      have hnone : openedIds started = [] := openedIds_eq_nil fun m hm => (hmade.openedId m hm).1
      rw [if_pos rfl, openedIds, List.filterMap_cons_some hsuccess]
      exact congrArg (id :: ·) hnone
    · refine .same (by rw [if_neg hd]; rfl) fun id' hid => .inl ?_
      rw [hopened.number.next, if_neg hd] at hid
      exact hid
  | closed hcloses hnil =>
    refine .same (by rw [hnil]; rfl) fun id' hid => .inl ?_
    rw [← hcloses.numbers d, hid]

end Inventory

namespace Server

variable [Double F] {cfg : ManagerConfig F} {lib : AddressLib Addr} {s s' : Server X}
  {a : ServerAction X}

/-- Bookkeeping starts the counter of a new connection and moves no other. -/
theorem channelIdFactory?_of_bookkeeping (hids : s.IdsInOrder)
    (h : next cfg lib s a = some s') (ha : a.isHandler = false) {d : DownstreamId} {id : ChannelId}
    (hid : s'.manager.channelIdFactory? d = some id) :
    s.manager.channelIdFactory? d = some id ∨ id = 2 ∧ s.phase.lookup d = none := by
  obtain ⟨downstream', hd', hid⟩ := Option.map_eq_some_iff.1 hid
  rcases (bookkeeping_of_next h ha).downstream d downstream' hd' with
    ⟨downstream, hd, hdata, -⟩ | ⟨group, hgroup, rfl⟩
  · left
    rw [ManagerState.channelIdFactory?, hd, Option.map_some, ← hdata, hid]
  · right
    exact ⟨hid.symm, (hids.accepting d (by rw [hgroup]; rfl)).2⟩

end Server

namespace PoolServer

/-- A step in which the manager handles a message of a connection that asks for a channel. -/
def asksFor (d : DownstreamId) (t : Transition (PoolServer X) (PoolServerAction X)) : Bool :=
  match t.action, t.before.server.queue with
  | .server (.handleMining _), (d', message) :: _ =>
    decide (d' = d) && message.openRequest.isSome
  | _, _ => false

/-- How often the manager handled a message of a connection that asks for a channel. -/
def asked (d : DownstreamId) (ts : List (Transition (PoolServer X) (PoolServerAction X))) : ℕ :=
  ts.countP (asksFor d)

variable [Double F] {cfg : ManagerConfig F} {lib : AddressLib Addr} {V : VardiffLib X}
  {s s' : PoolServer X} {a : PoolServerAction X}
  {ts : List (Transition (PoolServer X) (PoolServerAction X))} {d : DownstreamId}

omit [Double F] in
theorem asksFor_of_asks {a : ServerAction X} (h : s.server.Asks a d) :
    asksFor d ⟨s, .server a, s'⟩ = true := by
  obtain ⟨now, message, queue, rfl, hqueue, hopen⟩ := h
  simp [asksFor, hqueue, hopen]

/-- **What a step does to a counter.** -/
theorem numbering_of_next (hX : X.Laws) (hG : X.GroupLaws) (h : Consistent s)
    (hs : next cfg lib V s a = some s') (d : DownstreamId) :
    Numbering (asksFor d ⟨s, a, s'⟩ = true) (s.server.phase.lookup d = none)
      (s.server.manager.channelIdFactory? d) (s'.server.manager.channelIdFactory? d)
      (openedIds (sentTo d (newMessages V ⟨s, a, s'⟩))) := by
  cases a with
  | server a =>
    simp only [PoolServer.next] at hs
    split at hs
    · obtain ⟨server, hserver, rfl⟩ := Option.map_eq_some_iff.1 hs
      rw [newMessages, (afterServer_spec (s := s) server a).1]
      cases ha : a.isHandler with
      | true =>
        rcases Server.inventory_of_handler hX hG h.covered hserver ha with hstep | hstep
        · exact (hstep.imp (fun d hasks => asksFor_of_asks hasks) fun _ hd => hd).numbering d
        · exact hstep.numbering d
      | false =>
        rw [(Server.sendsNothing_of_next h.ids h.accepting hserver ha).sent]
        exact .same rfl fun id hid => Server.channelIdFactory?_of_bookkeeping h.ids hserver ha hid
    · cases hs
  | runVardiff order =>
    simp only [PoolServer.next] at hs
    split at hs
    · cases hs
      exact (inventory_runVardiff V order s.server.manager
        (fun d => asksFor d ⟨s, .runVardiff order, _⟩ = true) fun _ => False).numbering d
    · cases hs
  | insertSender _ | closeReceiver _ | forward | removeSender _ | managerRemovesSender =>
    rw [server_of_next hs (fun _ heq => by cases heq) fun _ heq => by cases heq]
    exact .same rfl fun id hid => .inl hid

/-- The numbers a connection has used are below its counter, which has advanced at most once
for each message that asks for a channel. -/
structure Numbered (V : VardiffLib X)
    (ts : List (Transition (PoolServer X) (PoolServerAction X))) (s : PoolServer X)
    (d : DownstreamId) : Prop where
  nodup : (openedIds (messagesFor V d ts)).Nodup
  two_le : ∀ id ∈ openedIds (messagesFor V d ts), 2 ≤ id.toNat
  counter : ∀ n, s.server.manager.channelIdFactory? d = some n →
    2 ≤ n.toNat ∧ n.toNat ≤ 2 + asked d ts ∧
      ∀ id ∈ openedIds (messagesFor V d ts), id.toNat < n.toNat

theorem numbered_of_run (hX : X.Laws) (hG : X.GroupLaws)
    (h : Run Started (Computes (next cfg lib V)) ts s) (d : DownstreamId)
    (hfew : 2 + asked d ts < 2 ^ 32) : Numbered V ts s d := by
  induction h with
  | @start s hstart =>
    refine ⟨List.nodup_nil, fun id hid => (List.not_mem_nil hid).elim, fun n hn => ?_⟩
    rw [ManagerState.channelIdFactory?, hstart.server.downstream?_eq_none] at hn
    cases hn
  | @next ts s s' a hrun hs ih =>
    have hcon := consistent_of_run hX hG hrun
    have hcount : asked d (ts ++ [⟨s, a, s'⟩]) =
        asked d ts + if asksFor d ⟨s, a, s'⟩ = true then 1 else 0 := by
      rw [asked, List.countP_append, List.countP_singleton, asked]
    rw [hcount] at hfew
    have hnum := ih (by omega)
    have hids : openedIds (messagesFor V d (ts ++ [⟨s, a, s'⟩])) =
        openedIds (messagesFor V d ts) ++
          openedIds (sentTo d (newMessages V ⟨s, a, s'⟩)) := by
      rw [messagesFor_append, openedIds_append]
    cases numbering_of_next hX hG hcon hs d with
    | same hnone hcounter =>
      rw [hnone, List.append_nil] at hids
      refine ⟨hids ▸ hnum.nodup, hids ▸ hnum.two_le, fun n hn => ?_⟩
      rw [hids, hcount]
      rcases hcounter n hn with hold | ⟨rfl, hphase⟩
      · obtain ⟨h2, hle, hlt⟩ := hnum.counter n hold
        exact ⟨h2, by omega, hlt⟩
      · -- The connection is registered: it was told nothing before.
        rw [(holds_of_run hX hG hrun).unset d hphase]
        exact ⟨by decide, by simp, fun id hid => (List.not_mem_nil hid).elim⟩
    | taken id hasks hbefore hafter hopened =>
      rw [if_pos hasks] at hcount hfew
      obtain ⟨h2, hle, hlt⟩ := hnum.counter id hbefore
      have hsucc : (id + 1).toNat = id.toNat + 1 := by
        rw [UInt32.toNat_add]
        exact Nat.mod_eq_of_lt (by simp; omega)
      have hcounter : ∀ n, s'.server.manager.channelIdFactory? d = some n → n = id + 1 := by
        intro n hn
        rw [hafter, Option.some.injEq] at hn
        exact hn.symm
      rcases hopened with hnone | hone
      · rw [hnone, List.append_nil] at hids
        refine ⟨hids ▸ hnum.nodup, hids ▸ hnum.two_le, fun n hn => ?_⟩
        rw [hcounter n hn, hsucc, hids, hcount]
        exact ⟨by omega, by omega, fun id' hid' => Nat.lt_succ_of_lt (hlt id' hid')⟩
      · rw [hone] at hids
        have hnew : id ∉ openedIds (messagesFor V d ts) :=
          fun hmem => Nat.lt_irrefl _ (hlt id hmem)
        have hmem : ∀ id' ∈ openedIds (messagesFor V d (ts ++ [⟨s, a, s'⟩])),
            id' ∈ openedIds (messagesFor V d ts) ∨ id' = id := by
          intro id' hid'
          rw [hids] at hid'
          exact (List.mem_append.1 hid').imp_right List.mem_singleton.1
        refine ⟨?_, fun id' hid' => ?_, fun n hn => ?_⟩
        · rw [hids, List.nodup_append_comm]
          exact List.nodup_cons.2 ⟨hnew, hnum.nodup⟩
        · rcases hmem id' hid' with hold | rfl
          · exact hnum.two_le id' hold
          · exact h2
        · rw [hcounter n hn, hsucc, hcount]
          refine ⟨by omega, by omega, fun id' hid' => ?_⟩
          rcases hmem id' hid' with hold | rfl
          · exact Nat.lt_succ_of_lt (hlt id' hold)
          · exact Nat.lt_succ_self _

/-- **No number is used twice.**  As long as a connection has asked for fewer channels than
its counter has numbers, no two channels were opened for it under one number, and none under
the number of its group. -/
theorem openedIds_nodup_of_run (hX : X.Laws) (hG : X.GroupLaws)
    (h : Run Started (Computes (next cfg lib V)) ts s) (d : DownstreamId)
    (hfew : 2 + asked d ts < 2 ^ 32) :
    (openedIds (messagesFor V d ts)).Nodup ∧
      ManagerState.groupChannelIdOfNew ∉ openedIds (messagesFor V d ts) := by
  have hnum := numbered_of_run hX hG h d hfew
  refine ⟨hnum.nodup, fun hgroup => ?_⟩
  have htwo : 2 ≤ ManagerState.groupChannelIdOfNew.toNat := hnum.two_le _ hgroup
  exact absurd htwo (by decide)

/-- The two channels of the run have the numbers after that of the group. -/
theorem openedIds_nodup_of_run_table :
    openedIds (messagesFor tableVardiff 1 (tableTrace aliceOpens)) = [2, 3] ∧
      (openedIds (messagesFor tableVardiff 1 (tableTrace aliceOpens))).Nodup :=
  ⟨by decide +kernel, (openedIds_nodup_of_run tableChannels_laws tableChannels_groupLaws
    (tableRun (s := tableAfter aliceOpens) aliceOpens rfl) 1 (by decide +kernel)).1⟩

end PoolServer

end CanaryMining
