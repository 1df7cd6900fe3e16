import CanaryMining.Manager.Connections

/-!
# Registry sessions and live channels

A session of the registry should be open exactly while its connection is
registered and holds the channel.  Handlers change both together, but
`remove_downstream` closes the sessions in one section and removes the
connection in a second one, and a queued open may be handled in between.

## Main definitions

* `ManagerState.Held`, `ManagerState.SessionOpen` — the two sides.
* `Server.Quiet` — no `remove_downstream` is between its sections.
* `Server.SessionsAgree` — what is asked of every state.
* `Server.SessionsClosed` — a connection is removed with its sessions closed.
* `Server.SessionInv` — the invariant.

**Main result:** `Server.sessions_eq_channels`, over whole runs.
-/

namespace CanaryMining

variable {F : Type} [Double F] {X : ChannelsSv2 F} {Addr : Type} {cfg : ManagerConfig F}
  {lib : AddressLib Addr}

namespace ManagerState

/-- The connection of the key is registered and holds the channel. -/
def Held (s : ManagerState X) (key : MinerSessionKey) : Prop :=
  (s.channel? key.downstreamId key.channelKind key.channelId).isSome

/-- The registry has an open session of the key. -/
def SessionOpen (s : ManagerState X) (key : MinerSessionKey) : Prop :=
  (s.minerStats.openSession key).isSome

instance (s : ManagerState X) (key : MinerSessionKey) : Decidable (s.Held key) :=
  inferInstanceAs (Decidable (_ = true))

instance (s : ManagerState X) (key : MinerSessionKey) : Decidable (s.SessionOpen key) :=
  inferInstanceAs (Decidable (_ = true))

/-- A session changed together with its channel. -/
def Together (s s' : ManagerState X) (key : MinerSessionKey) : Prop :=
  (s'.Held key ↔ s.Held key) ∧ (s'.SessionOpen key ↔ s.SessionOpen key) ∨
    s'.Held key ∧ s'.SessionOpen key ∨ ¬ s'.Held key ∧ ¬ s'.SessionOpen key

variable {s s' s'' : ManagerState X} {d : DownstreamId} {key : MinerSessionKey}

omit [Double F] in
theorem Together.trans (h : Together s s' key) (h' : Together s' s'' key) :
    Together s s'' key := by
  unfold Together at h'
  rcases h' with ⟨hheld, hopen⟩ | hboth
  · rw [Together, hheld, hopen]
    exact h
  · exact .inr hboth

omit [Double F] in
theorem held_insertChannel (hd : (s.downstream? d).isSome) (kind : MinerChannelKind)
    (id : ChannelId) (c : X.Channel kind) :
    (s.insertChannel d kind id c).Held key ↔ key = ⟨d, id, kind⟩ ∨ s.Held key := by
  obtain ⟨d', id', kind'⟩ := key
  simp only [Held, MinerSessionKey.mk.injEq]
  by_cases hkind : kind' = kind
  · subst hkind
    rw [channel?_insertChannel _ _ _ _ _ _ _ hd]
    by_cases hkey : d' = d ∧ id' = id
    · simp [hkey]
    · rw [if_neg hkey]
      tauto
  · rw [channel?_insertChannel_ne _ _ _ _ _ _ _ _ hkind]
    tauto

omit [Double F] in
theorem held_eraseChannel (kind : MinerChannelKind) (id : ChannelId) :
    (s.eraseChannel d kind id).Held key ↔ key ≠ ⟨d, id, kind⟩ ∧ s.Held key := by
  obtain ⟨d', id', kind'⟩ := key
  simp only [Held, channel?_eraseChannel, ne_eq, MinerSessionKey.mk.injEq]
  by_cases hkey : d' = d ∧ kind' = kind ∧ id' = id
  · simp [hkey]
  · rw [if_neg hkey]
    tauto

variable (s d key)

omit [Double F] in
theorem sessionOpen_closeSessions (now : UInt64) :
    (s.closeSessions now d).SessionOpen key ↔ key.downstreamId ≠ d ∧ s.SessionOpen key := by
  have hclosed := s.minerStats.openSession_recordDownstreamClosed now d key
  simp only [SessionOpen, closeSessions, minerStats_setStats, hclosed]
  by_cases hd : key.downstreamId = d
  · simp [hd]
  · simp [hd]

omit [Double F] in
theorem held_removeDownstream :
    (s.removeDownstream d).Held key ↔ key.downstreamId ≠ d ∧ s.Held key := by
  simp only [Held, channel?, downstream?_removeDownstream]
  by_cases hd : key.downstreamId = d
  · simp [hd]
  · simp [hd]

omit [Double F] in
/-- A new connection holds no channel. -/
theorem held_registerDownstream (group : X.GroupChannel) (hd : s.downstream? d = none) :
    (s.registerDownstream d group).Held key ↔ s.Held key := by
  simp only [Held, channel?, downstream?_registerDownstream]
  by_cases hkey : key.downstreamId = d
  · rw [if_pos hkey, hkey, hd]
    cases hkind : key.channelKind <;>
      simp [newDownstream, DownstreamData.channels]
  · rw [if_neg hkey]

omit [Double F] in
theorem held_setFlags (std custom : Bool) :
    (s.setFlags d std custom).Held key ↔ s.Held key := by
  simp only [Held, channel?, downstream?_setFlags]
  cases s.downstream? key.downstreamId with
  | none => rfl
  | some downstream =>
    by_cases hd : key.downstreamId = d
    · simp [hd]
    · simp [hd]

end ManagerState

open ManagerState

section Changes

variable {s s' : ManagerState X} {d : DownstreamId} {opens : Prop}

/-- **One change.**  A change concerns no session, or opens or closes one together with
its channel. -/
theorem Change.together (h : Change cfg lib d opens s s') (key : MinerSessionKey) :
    Together s s' key := by
  cases h with
  | payoutMode _ | channelId | group _ _ | insertVardiff | eraseVardiff =>
    left
    exact ⟨by simp [Held], Iff.rfl⟩
  | @channel kind id c c' hc _ _ =>
    -- The channel was there before, with its session as it is.
    left
    have hold : s.Held ⟨d, id, kind⟩ := by
      rw [Held, hc]
      rfl
    have hd := isSome_downstream?_of_channel? s d kind id hold
    refine ⟨?_, Iff.rfl⟩
    rw [held_insertChannel hd]
    constructor
    · rintro (rfl | hkey)
      · exact hold
      · exact hkey
    · exact .inr
  | stats hstats =>
    left
    exact ⟨Iff.rfl, by simp only [SessionOpen, minerStats_setStats, hstats key]⟩
  | @opened kind id c mode now hash _ hd _ _ _ =>
    have hheld : (s.insertChannel d kind id c).Held key ↔ key = ⟨d, id, kind⟩ ∨ s.Held key :=
      held_insertChannel hd kind id c
    have hopen := s.minerStats.openSession_recordChannelOpened now d id kind key
      (X.userIdentity c) hash
    by_cases hkey : key = ⟨d, id, kind⟩
    · right
      left
      refine ⟨hheld.2 (.inl hkey), ?_⟩
      rw [SessionOpen, minerStats_setStats, hopen, if_pos hkey]
      rfl
    · left
      refine ⟨hheld.trans (or_iff_right hkey), ?_⟩
      simp [SessionOpen, hopen, hkey]
  | @closed kind id now hc =>
    have hheld : (s.eraseChannel d kind id).Held key ↔ key ≠ ⟨d, id, kind⟩ ∧ s.Held key :=
      held_eraseChannel kind id
    have hopen := s.minerStats.openSession_recordChannelClosed now d id kind key
    by_cases hkey : key = ⟨d, id, kind⟩
    · right
      right
      refine ⟨fun h => (hheld.1 h).1 hkey, ?_⟩
      rw [SessionOpen, minerStats_setStats, hopen, if_pos hkey]
      exact Bool.false_ne_true
    · left
      refine ⟨hheld.trans (and_iff_right hkey), ?_⟩
      simp [SessionOpen, hopen, hkey]

theorem Changes.together (h : Changes cfg lib d opens s s') (key : MinerSessionKey) :
    Together s s' key := by
  induction h with
  | refl => exact .inl ⟨Iff.rfl, Iff.rfl⟩
  | tail _ hchange ih => exact ih.trans (hchange.together key)

omit [Double F] in
/-- A message of the template provider keeps the channels and the sessions, where it
keeps the channels of each connection. -/
theorem EachDownstream.together {change : Downstream X → Downstream X → Prop}
    (h : EachDownstream change s s')
    (hchange : ∀ before after, change before after → ∀ kind id,
      ((after.downstreamData.channels kind).lookup id).isSome =
        ((before.downstreamData.channels kind).lookup id).isSome) (key : MinerSessionKey) :
    (s'.Held key ↔ s.Held key) ∧ (s'.SessionOpen key ↔ s.SessionOpen key) := by
  refine ⟨?_, by rw [SessionOpen, SessionOpen, h.minerStats]⟩
  simp only [Held, channel?]
  cases hd : s.downstream? key.downstreamId with
  | none => simp [h.absent _ hd]
  | some downstream =>
    obtain ⟨downstream', hd', hc⟩ := h.present _ _ hd
    rw [hd']
    split at hc
    · rw [hc]
    · simp only [Option.bind_some, hchange _ _ hc]

end Changes

namespace Server

variable {s s' : Server X} {a : ServerAction X}

/-- A `remove_downstream` of the connection is between its two sections. -/
def Between (s : Server X) (d : DownstreamId) : Prop :=
  s.managerPhase = .removing d ∨ s.phase.lookup d = some .removing

/-- No `remove_downstream` is between its two sections. -/
def Quiet (s : Server X) : Prop := ∀ d, ¬ s.Between d

/-- Exactly the live channels have an open session. -/
def SessionsMatch (s : Server X) : Prop :=
  ∀ key, s.manager.SessionOpen key ↔ s.manager.Held key

/-- Without a removal under way the sessions are the live channels, and a connection
that is gone has none open. -/
structure SessionsAgree (s : Server X) : Prop where
  live : s.Quiet → s.SessionsMatch
  gone : ∀ key : MinerSessionKey, s.phase.lookup key.downstreamId = some .ended →
    ¬ s.manager.SessionOpen key

/-- A connection that ends is removed with none of its sessions open: no channel was
opened for it since its sessions were closed, or all of those are closed again. -/
def SessionsClosed (s : Server X) : ServerAction X → Prop
  | .connectionRemoves d => ∀ key, key.downstreamId = d → ¬ s.manager.SessionOpen key
  | _ => True

/-- **The invariant.**  Open sessions have their channel, and a channel without an open
session belongs to a connection that is being removed. -/
structure SessionInv (s : Server X) : Prop where
  held : ∀ key, s.manager.SessionOpen key → s.manager.Held key
  sessionOpen : ∀ key, s.manager.Held key →
    s.manager.SessionOpen key ∨ s.Between key.downstreamId
  removing : ∀ d, s.managerPhase = .removing d → ∀ key, key.downstreamId = d →
    ¬ s.manager.SessionOpen key

/-! ## Steps -/

/-- What the steps of the manager have in common: it handles a message while idle, and
sessions change together with their channels. -/
structure HandlerStep (s s' : Server X) : Prop where
  together : ∀ key, Together s.manager s'.manager key
  phase : s'.phase = s.phase
  idle : s.managerPhase = .idle
  notRemoving : ∀ d, s'.managerPhase ≠ .removing d

omit [Double F] in
theorem notRemoving_of_idle {phase : ManagerPhase} (hidle : s.managerPhase = .idle)
    (h : phase = s.managerPhase ∨ ∃ d, phase = .failed d) (d : DownstreamId) :
    phase ≠ .removing d := by
  rintro rfl
  rcases h with h | ⟨d', h⟩
  · rw [hidle] at h
    cases h
  · cases h

theorem handlerStep_handleMining (hX : X.Laws) {now : UInt64}
    (h : next cfg lib s (.handleMining now) = some s') : HandlerStep s s' := by
  obtain ⟨hidle, d, message, queue, outcome, -, hhandles, hhandled⟩ := handled_handleMining hX h
  have hchanges := hhandles.changes _ hhandled.state
  exact ⟨hchanges.together, hhandled.phase, hidle,
    notRemoving_of_idle (s := s) hidle hhandled.managerPhase⟩

theorem handlerStep_newTemplate (hX : X.Laws) {template : NewTemplate} {orders : MapOrders}
    (h : next cfg lib s (.newTemplate template orders) = some s') : HandlerStep s s' := by
  obtain ⟨hidle, outcome, htemplate, hhandled⟩ := handled_newTemplate hX h
  have heach := htemplate.each _ hhandled.state
  refine ⟨fun key => .inl (heach.together (fun before after hgiven kind id => ?_) key),
    hhandled.phase, hidle, notRemoving_of_idle hidle hhandled.managerPhase⟩
  cases hl : (before.downstreamData.channels kind).lookup id with
  | none => rw [hgiven.absent kind id hl]
  | some c =>
    obtain ⟨groupJob, -, -, -, hchannel⟩ := hgiven.channel
    obtain ⟨c', hc', -⟩ := hchannel kind id c hl
    rw [hc']
    rfl

theorem handlerStep_setNewPrevHash {message : SetNewPrevHash} {orders : MapOrders}
    (h : next cfg lib s (.setNewPrevHash message orders) = some s') : HandlerStep s s' := by
  obtain ⟨hidle, outcome, hprev, hhandled⟩ := handled_setNewPrevHash h
  have heach := hprev.each _ hhandled.state
  refine ⟨fun key => .inl (heach.together (fun before after hset kind id => ?_) key),
    hhandled.phase, hidle, notRemoving_of_idle hidle hhandled.managerPhase⟩
  cases hl : (before.downstreamData.channels kind).lookup id with
  | none => rw [hset.absent kind id hl]
  | some c =>
    obtain ⟨c', hc', -⟩ := hset.channel kind id c hl
    rw [hc']
    rfl

omit [Double F] in
/-- The manager keeps the invariant, since it is not removing a connection. -/
theorem HandlerStep.sessionInv (h : HandlerStep s s') (hinv : SessionInv s) : SessionInv s' := by
  have hbetween : ∀ d, s'.Between d ↔ s.Between d := by
    intro d
    have hno := h.notRemoving d
    simp only [Between, h.phase, h.idle]
    tauto
  refine ⟨fun key hopen => ?_, fun key hheld => ?_, fun d hd => absurd hd (h.notRemoving d)⟩
  · have hkey := hinv.held key
    rcases h.together key with ⟨h₁, h₂⟩ | ⟨h₁, -⟩ | ⟨-, h₂⟩
    · exact h₁.2 (hkey (h₂.1 hopen))
    · exact h₁
    · exact absurd hopen h₂
  · have hkey := hinv.sessionOpen key
    rw [hbetween]
    rcases h.together key with ⟨h₁, h₂⟩ | ⟨-, h₂⟩ | ⟨h₁, -⟩
    · exact (hkey (h₁.1 hheld)).imp_left h₂.2
    · exact .inl h₂
    · exact absurd hheld h₁

omit [Double F] in
/-- A step that changes neither sessions nor channels, and no `remove_downstream`. -/
theorem SessionInv.of_iff (hinv : SessionInv s)
    (hopen : ∀ key, s'.manager.SessionOpen key ↔ s.manager.SessionOpen key)
    (hheld : ∀ key, s'.manager.Held key ↔ s.manager.Held key)
    (hphase : ∀ d, s.phase.lookup d = some .removing → s'.phase.lookup d = some .removing)
    (hmanager : s'.managerPhase = s.managerPhase) : SessionInv s' := by
  refine ⟨fun key hkey => ?_, fun key hkey => ?_, fun d hd key hkey => ?_⟩
  · rw [hheld]
    exact hinv.held key ((hopen key).1 hkey)
  · rw [hopen]
    have hold := hinv.sessionOpen key ((hheld key).1 hkey)
    refine hold.imp_right fun hbetween => ?_
    unfold Between at *
    rw [hmanager]
    exact hbetween.imp_right (hphase _)
  · rw [hopen]
    rw [hmanager] at hd
    exact hinv.removing d hd key hkey

omit [Double F] in
/-- **The first section.**  The sessions of the connection are closed, and it is being
removed from now on. -/
theorem SessionInv.of_closeSessions (hinv : SessionInv s) {now : UInt64} {d : DownstreamId}
    (hmanager : s'.manager = s.manager.closeSessions now d) (hd : s'.Between d)
    (hbetween : ∀ d' ≠ d, s.Between d' → s'.Between d')
    (hphase : ∀ d' ≠ d, s'.managerPhase = .removing d' → s.managerPhase = .removing d') :
    SessionInv s' := by
  have hopen : ∀ key, s'.manager.SessionOpen key ↔
      key.downstreamId ≠ d ∧ s.manager.SessionOpen key := by
    intro key
    rw [hmanager]
    exact sessionOpen_closeSessions s.manager d key now
  have hheld : ∀ key, s'.manager.Held key ↔ s.manager.Held key := by
    intro key
    rw [hmanager]
    exact Iff.rfl
  refine ⟨fun key hkey => ?_, fun key hkey => ?_, fun d' hd' key hkey => ?_⟩
  · rw [hheld]
    exact hinv.held key ((hopen key).1 hkey).2
  · have hold := hinv.sessionOpen key ((hheld key).1 hkey)
    by_cases hkd : key.downstreamId = d
    · right
      rw [hkd]
      exact hd
    · rw [hopen]
      exact hold.imp (fun h => ⟨hkd, h⟩) (hbetween _ hkd)
  · rw [hopen]
    intro h
    by_cases hdd : d' = d
    · exact h.1 (hkey.trans hdd)
    · exact hinv.removing d' (hphase d' hdd hd') key hkey h.2

omit [Double F] in
/-- **The second section**, with the sessions of the connection closed. -/
theorem SessionInv.of_removeDownstream (hinv : SessionInv s) {d : DownstreamId}
    (hmanager : s'.manager = s.manager.removeDownstream d)
    (hclosed : ∀ key, key.downstreamId = d → ¬ s.manager.SessionOpen key)
    (hbetween : ∀ d' ≠ d, s.Between d' → s'.Between d')
    (hphase : ∀ d', s'.managerPhase = .removing d' → s.managerPhase = .removing d') :
    SessionInv s' := by
  have hopen : ∀ key, s'.manager.SessionOpen key ↔ s.manager.SessionOpen key := by
    intro key
    rw [hmanager]
    exact Iff.rfl
  have hheld : ∀ key, s'.manager.Held key ↔ key.downstreamId ≠ d ∧ s.manager.Held key := by
    intro key
    rw [hmanager]
    exact held_removeDownstream s.manager d key
  refine ⟨fun key hkey => ?_, fun key hkey => ?_, fun d' hd' key hkey => ?_⟩
  · have hkey' := (hopen key).1 hkey
    have hkd : key.downstreamId ≠ d := fun h => hclosed key h hkey'
    exact (hheld key).2 ⟨hkd, hinv.held key hkey'⟩
  · obtain ⟨hkd, hkey'⟩ := (hheld key).1 hkey
    rw [hopen]
    exact (hinv.sessionOpen key hkey').imp_right (hbetween _ hkd)
  · rw [hopen]
    exact hinv.removing d' (hphase d' hd') key hkey

omit [Double F] in
/-- A connection that is being removed goes on, unless it is the one whose task does. -/
theorem lookup_removing_insert {d d' : DownstreamId} {p : DownstreamPhase}
    (hd : s.phase.lookup d ≠ some .removing) (hd' : s.phase.lookup d' = some .removing) :
    (s.phase.insert d p).lookup d' = some .removing := by
  have hne : d' ≠ d := by
    rintro rfl
    exact hd hd'
  rw [AssocMap.lookup_insert_if, if_neg hne]
  exact hd'

/-- **The step lemma.** -/
theorem SessionInv.next (hX : X.Laws) (hinv : SessionInv s) (hids : IdsInOrder s)
    (h : next cfg lib s a = some s') (hclosed : SessionsClosed s a) : SessionInv s' := by
  cases ha : a.isHandler with
  | true =>
    cases a with
    | handleMining now => exact (handlerStep_handleMining hX h).sessionInv hinv
    | newTemplate template orders => exact (handlerStep_newTemplate hX h).sessionInv hinv
    | setNewPrevHash message orders => exact (handlerStep_setNewPrevHash h).sessionInv hinv
    | _ => cases ha
  | false =>
    cases bookkeepingStep_of_next h ha with
    | bootstrap _ | forward _ =>
      exact hinv.of_iff (fun _ => Iff.rfl) (fun _ => Iff.rfl) (fun _ hd => hd) rfl
    | @register d group hgroup =>
      have hnew := hids.accepting d (by rw [hgroup]; rfl)
      refine hinv.of_iff (fun _ => Iff.rfl) (fun key => ?_) (fun d' hd' => ?_) rfl
      · exact held_registerDownstream s.manager d key group hnew.1
      · exact lookup_removing_insert (by rw [hnew.2]; nofun) hd'
    | @setupConnection d std custom hsetup =>
      refine hinv.of_iff (fun _ => Iff.rfl) (fun key => ?_) (fun d' hd' => ?_) rfl
      · exact held_setFlags s.manager d key std custom
      · exact lookup_removing_insert (by rw [hsetup]; nofun) hd'
    | managerClosesSessions hfailed =>
      refine hinv.of_closeSessions rfl (.inl rfl) (fun d' _ hd' => ?_) (fun d' hne hd' => ?_)
      · refine hd'.imp_left fun hremoving => ?_
        rw [hfailed] at hremoving
        cases hremoving
      · cases hd'
        exact absurd rfl hne
    | @managerRemoves d hremoving =>
      refine hinv.of_removeDownstream rfl (hinv.removing d hremoving) (fun d' hne hd' => ?_)
        (fun d' hd' => ?_)
      · refine .inr (hd'.resolve_left fun hd'' => hne ?_)
        rw [hremoving] at hd''
        cases hd''
        rfl
      · cases hd'
    | connectionClosesSessions _ =>
      refine hinv.of_closeSessions rfl (.inr ?_) (fun d' hne hd' => ?_) (fun _ _ hd' => hd')
      · rw [AssocMap.lookup_insert_if, if_pos rfl]
      · refine hd'.imp_right fun hremoving => ?_
        rw [AssocMap.lookup_insert_if, if_neg hne]
        exact hremoving
    | connectionRemoves _ =>
      refine hinv.of_removeDownstream rfl hclosed (fun d' hne hd' => ?_) (fun _ hd' => hd')
      refine hd'.imp_right fun hremoving => ?_
      rw [AssocMap.lookup_insert_if, if_neg hne]
      exact hremoving
    | poll =>
      refine hinv.of_iff (fun key => ?_) (fun _ => Iff.rfl) (fun _ hd => hd) rfl
      simp only [SessionOpen, silently, minerStats_setStats]
      rw [MinerStatsRegistry.openSession_snapshots]

/-! ## Runs -/

omit [Double F] in
theorem Started.inv (h : Started s) : IdsInOrder s ∧ SessionInv s := by
  have hopen : ∀ key, ¬ s.manager.SessionOpen key := by
    intro key
    rw [SessionOpen, h.minerStats, MinerStatsRegistry.openSession_new]
    exact Bool.false_ne_true
  have hheld : ∀ key, ¬ s.manager.Held key := by
    intro key
    rw [Held, channel?, h.downstream?_eq_none]
    exact Bool.false_ne_true
  exact ⟨h.idsInOrder, fun key hkey => absurd hkey (hopen key),
    fun key hkey => absurd hkey (hheld key), fun d _ key _ => hopen key⟩

omit [Double F] in
/-- The invariant says so of every state: a channel without an open session is being
removed, and a session without a channel does not exist. -/
theorem SessionInv.sessionsAgree (hinv : SessionInv s) (hids : IdsInOrder s) :
    s.SessionsAgree where
  live hquiet key := by
    constructor
    · exact hinv.held key
    · intro hheld
      exact (hinv.sessionOpen key hheld).resolve_right (hquiet _)
  gone key hended hopen := by
    have hheld := hinv.held key hopen
    rw [Held, channel?, hids.ended _ hended] at hheld
    cases hheld

/-- A connection that is removed with a session open is gone with it open. -/
theorem sessionsClosed_of_sessionsAgree (h : next cfg lib s a = some s')
    (hagree : s'.SessionsAgree) : s.SessionsClosed a := by
  cases a with
  | connectionRemoves d =>
    simp only [Server.next] at h
    split at h
    · cases h
      intro key hkey
      have hgone := hagree.gone key
      rw [hkey, AssocMap.lookup_insert_if, if_pos rfl] at hgone
      exact hgone rfl
    · cases h
  | _ => trivial

/-- **Registry sessions are the live channels**, in every state of a run, exactly if
every connection that ends is removed with its sessions closed. -/
theorem sessions_eq_channels (hX : X.Laws) (cfg : ManagerConfig F) (lib : AddressLib Addr)
    {ts : List (Transition (Server X) (ServerAction X))} {s : Server X}
    (hrun : Run Started (Computes (next cfg lib)) ts s) :
    (∀ t ∈ ts, t.after.SessionsAgree) ↔ ∀ t ∈ ts, t.before.SessionsClosed t.action := by
  constructor
  · intro hagree t ht
    have hsteps := hrun.forall_transition_of (I := fun _ => True) (P := fun _ => True)
      (fun _ _ => trivial) (fun _ _ _ _ _ _ => trivial) (fun _ _ => trivial)
    exact sessionsClosed_of_sessionsAgree (hsteps t ht).2.1 (hagree t ht)
  · intro hclosed t ht
    have hinv := hrun.forall_transition_of (I := fun s => IdsInOrder s ∧ SessionInv s)
      (P := fun t => SessionsClosed t.before t.action) (fun _ hstart => hstart.inv)
      (fun _ _ _ hinv hstep hok => ⟨hinv.1.next hX hstep, hinv.2.next hX hinv.1 hstep hok⟩)
      hclosed
    obtain ⟨hids, hsessions⟩ := (hinv t ht).2.2
    exact hsessions.sessionsAgree hids

/-! ## A channel that is opened too late -/

/-- No entry of the task table, nor the manager, is between the sections. -/
def isQuiet (s : Server X) : Bool :=
  (match s.managerPhase with
  | .removing _ => false
  | _ => true) && s.phase.entries.all fun e => decide (e.2 ≠ .removing)

omit [Double F] in
theorem isQuiet_iff : s.isQuiet = true ↔ s.Quiet := by
  have hphase : (∀ e ∈ s.phase.entries, e.2 ≠ .removing) ↔
      ∀ d, s.phase.lookup d ≠ some .removing := by
    simp only [ne_eq, AssocMap.lookup_eq_some]
    constructor
    · intro h d hd
      exact h _ hd rfl
    · intro h e he hremoving
      refine h e.1 ?_
      rw [← hremoving]
      exact he
  simp only [isQuiet, Quiet, Between, not_or, forall_and, Bool.and_eq_true, List.all_eq_true,
    decide_eq_true_eq, hphase]
  refine and_congr_left fun _ => ?_
  cases s.managerPhase with
  | removing d => simp
  | idle | failed d => simp

instance (s : Server X) : Decidable s.Quiet := decidable_of_iff _ isQuiet_iff

omit [Double F] in
theorem sessionsClosed_connectionRemoves {d : DownstreamId} :
    SessionsClosed s (.connectionRemoves d) ↔ ∀ e ∈ s.manager.minerStats.sessions.entries,
      e.1.downstreamId = d → e.2.closedAt ≠ none := by
  simp only [SessionsClosed, SessionOpen, Option.isSome_iff_exists,
    MinerStatsRegistry.openSession_eq_some, AssocMap.lookup_eq_some]
  constructor
  · intro h e he hd hclosed
    exact h e.1 hd ⟨e.2, he, hclosed⟩
  · rintro h key hd ⟨stats, hstats, hclosed⟩
    exact h ⟨key, stats⟩ hstats hd hclosed

instance (s : Server X) (a : ServerAction X) : Decidable (s.SessionsClosed a) :=
  match a with
  | .connectionRemoves _ => decidable_of_iff _ sessionsClosed_connectionRemoves.symm
  | .bootstrap | .register _ | .setupConnection _ _ _ | .forward _ _ | .handleMining _
  | .newTemplate _ _ | .setNewPrevHash _ _ | .managerClosesSessions _ | .managerRemoves
  | .connectionClosesSessions _ _ | .poll _ _ => .isTrue trivial

/-- Alice opens two channels; her connection ends after the manager has handled
both, or between the two. -/
def aliceLeaves (handledLate : Bool) : List (ServerAction tableChannels) :=
  twoOpens (openStandard aliceAddress (.num 1)) (openStandard aliceAddress (.num 1)) ++
    if handledLate then
      [.connectionClosesSessions 1 1, .handleMining 2, .connectionRemoves 1]
    else [.handleMining 1, .connectionClosesSessions 1 2, .connectionRemoves 1]

/-- Alice leaves after both her channels were opened. -/
theorem sessions_eq_channels_aliceLeaves :
    ∃ ts s, Run Started (Computes (next tableConfig tableLib)) ts s ∧
      ts = trace (next tableConfig tableLib) tableServer (aliceLeaves false) ∧
      ∀ t ∈ ts, t.after.SessionsAgree := by
  refine ⟨_, _, .ofActions tableServer_started (aliceLeaves false) rfl, rfl, ?_⟩
  refine (sessions_eq_channels tableChannels_laws tableConfig tableLib
    (.ofActions tableServer_started (aliceLeaves false) rfl)).2 ?_
  decide +kernel

/-- **The second channel is opened between the two sections**: its session stays open
although the connection is gone. -/
theorem sessions_eq_channels_fails_lateOpen :
    ¬ ∀ ts (s : Server tableChannels), Run Started (Computes (next tableConfig tableLib)) ts s →
      s.Quiet → s.SessionsMatch := by
  intro hall
  have hmatch := hall _ _ (.ofActions tableServer_started (aliceLeaves true) rfl) ?_
  · have hheld := (hmatch ⟨1, 3, .standard⟩).1 (by decide +kernel)
    exact absurd hheld (by decide +kernel)
  · decide +kernel

end Server

end CanaryMining
