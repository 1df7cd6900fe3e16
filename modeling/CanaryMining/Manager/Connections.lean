import CanaryMining.Manager.Server

/-!
# The connections of the server

A connection gets its id from a counter, is set up once, and ends once.  While
it is set up it holds no channel, since none of its messages has been forwarded.

## Main definitions

* `Server.IdsInOrder` — the ids of the connections.
* `Server.SetupIdle` — a connection that is not set up yet.
-/

namespace CanaryMining

variable {F : Type} [Double F] {X : ChannelsSv2 F} {Addr : Type} {cfg : ManagerConfig F}
  {lib : AddressLib Addr}

open ManagerState

section Changes

variable {s s' : ManagerState X} {d : DownstreamId} {opens : Prop}

/-- No change registers or removes a connection. -/
theorem Change.isSome_downstream? (h : Change cfg lib d opens s s') (d' : DownstreamId) :
    (s'.downstream? d').isSome = (s.downstream? d').isSome ∧
      s'.data.downstreamIdFactory = s.data.downstreamIdFactory := by
  cases h with
  | payoutMode _ | channelId | group _ _ | channel _ _ _ =>
    exact ⟨isSome_downstream?_modifyDownstream _ _ _ _, rfl⟩
  | opened _ _ _ _ _ | closed _ =>
    rw [downstream?_setStats]
    exact ⟨isSome_downstream?_modifyDownstream _ _ _ _, rfl⟩
  | insertVardiff | eraseVardiff | stats _ => exact ⟨rfl, rfl⟩

theorem Changes.isSome_downstream? (h : Changes cfg lib d opens s s') (d' : DownstreamId) :
    (s'.downstream? d').isSome = (s.downstream? d').isSome ∧
      s'.data.downstreamIdFactory = s.data.downstreamIdFactory := by
  induction h with
  | refl => exact ⟨rfl, rfl⟩
  | tail _ hchange ih =>
    obtain ⟨hd, hid⟩ := hchange.isSome_downstream? d'
    exact ⟨hd.trans ih.1, hid.trans ih.2⟩

omit [Double F] in
theorem EachDownstream.isSome_downstream? {change : Downstream X → Downstream X → Prop}
    (h : EachDownstream change s s') (d : DownstreamId) :
    (s'.downstream? d).isSome = (s.downstream? d).isSome := by
  cases hd : s.downstream? d with
  | none => rw [h.absent _ hd]
  | some downstream =>
    obtain ⟨downstream', hd', -⟩ := h.present _ _ hd
    rw [hd']
    rfl

end Changes

namespace Server

variable {s s' : Server X} {a : ServerAction X}

/-- Ids are taken in order, and one that has ended is not registered. -/
structure IdsInOrder (s : Server X) : Prop where
  fresh : ∀ d, s.manager.data.downstreamIdFactory ≤ d →
    s.manager.downstream? d = none ∧ s.phase.lookup d = none ∧ s.accepting.lookup d = none
  accepting : ∀ d, (s.accepting.lookup d).isSome →
    s.manager.downstream? d = none ∧ s.phase.lookup d = none
  ended : ∀ d, s.phase.lookup d = some .ended → s.manager.downstream? d = none

/-- What a handler keeps. -/
structure Kept (s s' : Server X) : Prop where
  downstream : ∀ d, (s'.manager.downstream? d).isSome = (s.manager.downstream? d).isSome
  downstreamIdFactory :
    s'.manager.data.downstreamIdFactory = s.manager.data.downstreamIdFactory
  phase : s'.phase = s.phase
  accepting : s'.accepting = s.accepting

theorem kept_of_handler (hX : X.Laws) (h : next cfg lib s a = some s')
    (ha : a.isHandler = true) : Kept s s' := by
  cases a with
  | handleMining now =>
    obtain ⟨-, d, message, queue, outcome, -, hhandles, hhandled⟩ := handled_handleMining hX h
    have hchanges := hhandles.changes _ hhandled.state
    exact ⟨fun d => (hchanges.isSome_downstream? d).1, (hchanges.isSome_downstream? d).2,
      hhandled.phase, hhandled.accepting⟩
  | newTemplate template orders =>
    obtain ⟨-, outcome, htemplate, hhandled⟩ := handled_newTemplate hX h
    have heach := htemplate.each _ hhandled.state
    exact ⟨heach.isSome_downstream?, heach.downstreamIdFactory, hhandled.phase,
      hhandled.accepting⟩
  | setNewPrevHash message orders =>
    obtain ⟨-, outcome, hprev, hhandled⟩ := handled_setNewPrevHash h
    have heach := hprev.each _ hhandled.state
    exact ⟨heach.isSome_downstream?, heach.downstreamIdFactory, hhandled.phase,
      hhandled.accepting⟩
  | _ => cases ha

/-! ## The ids -/

omit [Double F] in
/-- A step that takes no id and leaves the tasks of the connections alone. -/
theorem IdsInOrder.of_downstream (hids : IdsInOrder s)
    (hdown : ∀ d, s.manager.downstream? d = none → s'.manager.downstream? d = none)
    (hid : s'.manager.data.downstreamIdFactory = s.manager.data.downstreamIdFactory)
    (hphase : s'.phase = s.phase) (haccepting : s'.accepting = s.accepting) :
    IdsInOrder s' := by
  refine ⟨fun d hd => ?_, fun d hd => ?_, fun d hd => ?_⟩
  · rw [hid] at hd
    rw [hphase, haccepting]
    exact (hids.fresh d hd).imp_left (hdown d)
  · rw [haccepting] at hd
    rw [hphase]
    exact (hids.accepting d hd).imp_left (hdown d)
  · rw [hphase] at hd
    exact hdown d (hids.ended d hd)

omit [Double F] in
/-- The task of a registered connection goes on. -/
theorem IdsInOrder.of_phase (hids : IdsInOrder s) {d : DownstreamId} {p q : DownstreamPhase}
    (hp : s.phase.lookup d = some p)
    (hdown : ∀ d', s.manager.downstream? d' = none → s'.manager.downstream? d' = none)
    (hended : q = .ended → s'.manager.downstream? d = none)
    (hid : s'.manager.data.downstreamIdFactory = s.manager.data.downstreamIdFactory)
    (hphase : s'.phase = s.phase.insert d q) (haccepting : s'.accepting = s.accepting) :
    IdsInOrder s' := by
  have hne : ∀ d', s.phase.lookup d' = none → d' ≠ d := by
    rintro _ hnone rfl
    rw [hp] at hnone
    cases hnone
  refine ⟨fun d' hd' => ?_, fun d' hd' => ?_, fun d' hd' => ?_⟩
  · rw [hid] at hd'
    have hold := hids.fresh d' hd'
    rw [hphase, haccepting, AssocMap.lookup_insert_if, if_neg (hne d' hold.2.1)]
    exact hold.imp_left (hdown d')
  · rw [haccepting] at hd'
    have hold := hids.accepting d' hd'
    rw [hphase, AssocMap.lookup_insert_if, if_neg (hne d' hold.2)]
    exact hold.imp_left (hdown d')
  · rw [hphase, AssocMap.lookup_insert_if] at hd'
    by_cases heq : d' = d
    · rw [if_pos heq, Option.some.injEq] at hd'
      rw [heq]
      exact hended hd'
    · rw [if_neg heq] at hd'
      exact hdown d' (hids.ended d' hd')

omit [Double F] in
/-- The acceptor takes the next id. -/
theorem IdsInOrder.of_bootstrap (hids : IdsInOrder s) {group : X.GroupChannel}
    (hmanager : s'.manager = s.manager.nextDownstreamId) (hphase : s'.phase = s.phase)
    (haccepting : s'.accepting =
      s.accepting.insert s.manager.data.downstreamIdFactory group) : IdsInOrder s' := by
  refine ⟨fun d hd => ?_, fun d hd => ?_, fun d hd => ?_⟩
  · have hlt : s.manager.data.downstreamIdFactory + 1 ≤ d := by
      rw [hmanager] at hd
      exact hd
    have hold := hids.fresh d (Nat.le_of_succ_le hlt)
    have hne : d ≠ s.manager.data.downstreamIdFactory := Nat.ne_of_gt hlt
    rw [hmanager, hphase, haccepting, AssocMap.lookup_insert_if, if_neg hne]
    exact hold
  · rw [hmanager, hphase]
    rw [haccepting, AssocMap.lookup_insert_if] at hd
    by_cases heq : d = s.manager.data.downstreamIdFactory
    · have hold := hids.fresh d heq.ge
      exact ⟨hold.1, hold.2.1⟩
    · rw [if_neg heq] at hd
      exact hids.accepting d hd
  · rw [hmanager]
    rw [hphase] at hd
    exact hids.ended d hd

omit [Double F] in
/-- A connection that was accepted is registered. -/
theorem IdsInOrder.of_register (hids : IdsInOrder s) {d : DownstreamId} {group : X.GroupChannel}
    (hd : s.accepting.lookup d = some group)
    (hmanager : s'.manager = s.manager.registerDownstream d group)
    (hphase : s'.phase = s.phase.insert d .setup)
    (haccepting : s'.accepting = s.accepting.erase d) :
    IdsInOrder s' := by
  have hother : ∀ d' ≠ d, s'.manager.downstream? d' = s.manager.downstream? d' ∧
      s'.phase.lookup d' = s.phase.lookup d' ∧
      s'.accepting.lookup d' = s.accepting.lookup d' := by
    intro d' hne
    rw [hmanager, hphase, haccepting, downstream?_registerDownstream, if_neg hne,
      AssocMap.lookup_insert_if, if_neg hne, AssocMap.lookup_erase_if, if_neg hne]
    exact ⟨rfl, rfl, rfl⟩
  refine ⟨fun d' hd' => ?_, fun d' hd' => ?_, fun d' hd' => ?_⟩
  · rw [hmanager] at hd'
    have hold := hids.fresh d' hd'
    have hne : d' ≠ d := by
      rintro rfl
      rw [hd] at hold
      cases hold.2.2
    rw [(hother d' hne).1, (hother d' hne).2.1, (hother d' hne).2.2]
    exact hold
  · have hne : d' ≠ d := by
      rintro rfl
      rw [haccepting, AssocMap.lookup_erase_if, if_pos rfl] at hd'
      cases hd'
    rw [(hother d' hne).2.2] at hd'
    rw [(hother d' hne).1, (hother d' hne).2.1]
    exact hids.accepting d' hd'
  · have hne : d' ≠ d := by
      rintro rfl
      rw [hphase, AssocMap.lookup_insert_if, if_pos rfl] at hd'
      cases hd'
    rw [(hother d' hne).2.1] at hd'
    rw [(hother d' hne).1]
    exact hids.ended d' hd'

theorem IdsInOrder.next (hX : X.Laws) (hids : IdsInOrder s)
    (h : next cfg lib s a = some s') : IdsInOrder s' := by
  cases ha : a.isHandler with
  | true =>
    have hkept := kept_of_handler hX h ha
    refine hids.of_downstream (fun d hd => ?_) hkept.downstreamIdFactory hkept.phase
      hkept.accepting
    rw [← Option.not_isSome_iff_eq_none, hkept.downstream, hd]
    exact Bool.false_ne_true
  | false =>
    cases bookkeepingStep_of_next h ha with
    | bootstrap _ => exact hids.of_bootstrap rfl rfl rfl
    | register hgroup => exact hids.of_register hgroup rfl rfl rfl
    | setupConnection hsetup =>
      refine hids.of_phase hsetup (fun d' hd' => ?_) (fun hq => by cases hq) rfl rfl rfl
      simp [silently, downstream?_setFlags, hd']
    | forward _ | managerClosesSessions _ | poll =>
      exact hids.of_downstream (fun _ hd => hd) rfl rfl rfl
    | managerRemoves _ =>
      refine hids.of_downstream (fun d' hd' => ?_) rfl rfl rfl
      simp [silently, downstream?_removeDownstream, hd']
    | connectionClosesSessions hopen =>
      rcases hopen with hp | hp
      · exact hids.of_phase hp (fun _ hd => hd) (fun hq => by cases hq) rfl rfl rfl
      · exact hids.of_phase hp (fun _ hd => hd) (fun hq => by cases hq) rfl rfl rfl
    | connectionRemoves hremoving =>
      refine hids.of_phase hremoving (fun d' hd' => ?_) (fun _ => ?_) rfl rfl rfl
      · simp [silently, downstream?_removeDownstream, hd']
      · simp [silently, downstream?_removeDownstream]

/-! ## Before a connection is set up -/

/-- A connection that is not set up holds no channel, and none of its messages is
forwarded. -/
def SetupIdle (s : Server X) : Prop :=
  ∀ d, s.Idle d → (∀ kind id, s.manager.channel? d kind id = none) ∧
    ∀ message, (d, message) ∉ s.queue

omit [Double F] in
/-- A step that opens no channel of a connection before it is set up. -/
theorem SetupIdle.of_channel_before (hidle : SetupIdle s)
    (hset : ∀ d, s'.Idle d → s.Idle d)
    (hchannel : ∀ d, s.Idle d → ∀ kind id (c : X.Channel kind),
      s'.manager.channel? d kind id = some c → ∃ c', s.manager.channel? d kind id = some c')
    (hqueue : ∀ d, s.Idle d → ∀ message, (d, message) ∈ s'.queue → (d, message) ∈ s.queue) :
    SetupIdle s' := by
  intro d hd
  have hd' := hset d hd
  obtain ⟨hnone, hempty⟩ := hidle d hd'
  refine ⟨fun kind id => ?_, fun message hmem => hempty message (hqueue d hd' message hmem)⟩
  cases hc : s'.manager.channel? d kind id with
  | none => rfl
  | some c =>
    obtain ⟨c', hc'⟩ := hchannel d hd' kind id c hc
    rw [hnone kind id] at hc'
    cases hc'

theorem SetupIdle.next (hX : X.Laws) (hidle : SetupIdle s) (hids : IdsInOrder s)
    (h : next cfg lib s a = some s') : SetupIdle s' := by
  have hphase : a.isHandler = true → ∀ d, s'.Idle d → s.Idle d := by
    intro ha d hd
    unfold Idle at *
    rw [(kept_of_handler hX h ha).phase] at hd
    exact hd
  cases a with
  | handleMining now =>
    obtain ⟨-, d, message, queue, outcome, hqueue, hhandles, hhandled⟩ := handled_handleMining hX h
    refine hidle.of_channel_before (hphase rfl) (fun d' hd' kind id c hc => ?_)
      fun _ _ _ he => mem_queue_of_handler h rfl he
    have hne : d' ≠ d := by
      intro heq
      refine (hidle d' hd').2 message ?_
      rw [hqueue, heq]
      exact List.mem_cons_self
    obtain ⟨after, hafter, hc⟩ := (channel?_eq_some _ _ _ _).1 hc
    obtain ⟨before, hbefore, -, hsame⟩ :=
      (hhandles.changes _ hhandled.state).downstream_before hafter
    rw [hsame hne] at hc
    exact ⟨c, (channel?_eq_some _ _ _ _).2 ⟨before, hbefore, hc⟩⟩
  | newTemplate template orders =>
    obtain ⟨-, outcome, htemplate, hhandled⟩ := handled_newTemplate hX h
    refine hidle.of_channel_before (hphase rfl) (fun d _ kind id c hc => ?_)
      fun _ _ _ he => mem_queue_of_handler h rfl he
    rcases (htemplate.each _ hhandled.state).channel_before (fun _ _ hg => hg.absent) hc with
      hold | ⟨before, -, c', hbefore, -, -, -, hc', -⟩
    · exact ⟨c, hold⟩
    · exact ⟨c', (channel?_eq_some _ _ _ _).2 ⟨before, hbefore, hc'⟩⟩
  | setNewPrevHash message orders =>
    obtain ⟨-, outcome, hprev, hhandled⟩ := handled_setNewPrevHash h
    refine hidle.of_channel_before (hphase rfl) (fun d _ kind id c hc => ?_)
      fun _ _ _ he => mem_queue_of_handler h rfl he
    rcases (hprev.each _ hhandled.state).channel_before (fun _ _ hg => hg.absent) hc with
      hold | ⟨before, -, c', hbefore, -, -, -, hc', -⟩
    · exact ⟨c, hold⟩
    · exact ⟨c', (channel?_eq_some _ _ _ _).2 ⟨before, hbefore, hc'⟩⟩
  | _ =>
    have hbook := bookkeeping_of_next h rfl
    refine hidle.of_channel_before (fun d hd => ?_) (fun d _ kind id c hc => ?_)
      fun d hd message he => ?_
    · -- A connection that was accepted is registered without a phase.
      rcases hbook.idle d hd with hset | haccepting
      · exact hset
      · exact .inl (hids.accepting d haccepting).2
    · exact ⟨c, (hbook.channel_before hc).1⟩
    · rcases hbook.queue _ he with hmem | hrunning
      · exact hmem
      · unfold Idle at hd
        simp [hrunning] at hd

/-! ## The start -/

omit [Double F] in
theorem Started.downstream?_eq_none (h : Started s) (d : DownstreamId) :
    s.manager.downstream? d = none := by
  rw [ManagerState.downstream?, h.downstream]
  rfl

omit [Double F] in
theorem Started.idsInOrder (h : Started s) : IdsInOrder s := by
  have hnone := h.downstream?_eq_none
  refine ⟨fun d _ => ⟨hnone d, ?_, ?_⟩, fun d _ => ⟨hnone d, ?_⟩, fun d _ => hnone d⟩
  · rw [h.phase]
    rfl
  · rw [h.accepting]
    rfl
  · rw [h.phase]
    rfl

omit [Double F] in
theorem Started.setupIdle (h : Started s) : SetupIdle s := by
  refine fun d _ => ⟨fun kind id => ?_, fun message hmem => ?_⟩
  · rw [channel?, h.downstream?_eq_none]
    rfl
  · rw [h.queue] at hmem
    cases hmem

end Server

end CanaryMining
