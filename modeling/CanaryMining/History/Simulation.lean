import CanaryMining.History.Follows
import CanaryMining.Lib.Run

/-!
# The history simulates the registry

The registry and the history writer work on different threads: a call changes the
registry at once and queues its event, and the writer applies the queued events
one by one, at any later time.  Deletions from the dashboard come in between.

Whenever the queue is empty, the row of each open session shows what the registry
knows of it.  The invariant that carries this is that the history follows some
view of the live sessions, and that the queued events lead from that view to the
registry's.

## Main definitions

* `RegistryCall` — a call of the registry.
* `SimState`, `SimStep` — the registry, the queue and the history.
* `Simulates` — the invariant.
-/

namespace CanaryMining

/-- A call of the registry. -/
inductive RegistryCall (F : Type)
  | channelOpened (d : DownstreamId) (c : ChannelId) (kind : MinerChannelKind) (u : Text)
      (hash : F)
  | shareSeen (d : DownstreamId) (c : ChannelId) (kind : MinerChannelKind)
  | shareAccepted (d : DownstreamId) (c : ChannelId) (kind : MinerChannelKind)
      (accepted : UInt64) (diff : F) (blocks : UInt64)
  | shareRejected (d : DownstreamId) (c : ChannelId) (kind : MinerChannelKind) (reason : Text)
  | blockFound (d : DownstreamId) (c : ChannelId) (kind : MinerChannelKind) (hash : Text)
      (blocks : UInt64)
  | channelClosed (d : DownstreamId) (c : ChannelId) (kind : MinerChannelKind)
  | downstreamClosed (d : DownstreamId)
  | snapshots (order : IterOrder (MinerSessionSnapshot F))

/-- An event in the queue.  `late` records that it is about one channel that was
not open when it was emitted. -/
structure Queued (F : Type) where
  event : MinerStatsEvent F
  late : Bool

/-- The registry, the queue of the history writer, and the history. -/
structure SimState (F : Type) where
  registry : MinerStatsRegistry F
  pending : List (Queued F)
  history : HistoryState F

/-- A call, an event applied by the writer, or a deletion. -/
inductive SimAction (F : Type)
  | call (now : UInt64) (call : RegistryCall F)
  | apply (order : SessionOrder)
  | delete (minerId : Text)

variable {Addr F : Type} [Double F] (lib : AddressLib Addr)

namespace RegistryCall

/-- The registry after a call, and the events it emits. -/
def run (now : UInt64) (r : MinerStatsRegistry F) :
    RegistryCall F → MinerStatsRegistry F × List (MinerStatsEvent F)
  | channelOpened d c kind u hash => r.recordChannelOpened now d c kind u hash
  | shareSeen d c kind => (r.recordShareSeen now d c kind, [])
  | shareAccepted d c kind accepted diff blocks =>
    r.recordShareAccepted now d c kind accepted diff blocks
  | shareRejected d c kind reason => r.recordShareRejected now d c kind reason
  | blockFound d c kind hash blocks => r.recordBlockFound now d c kind hash blocks
  | channelClosed d c kind => r.recordChannelClosed now d c kind
  | downstreamClosed d => r.recordDownstreamClosed now d
  | snapshots order => ((r.snapshots now order).1, [])

omit [Double F] in
/-- A change of one record that leaves the identity and the closing time leaves those of all. -/
theorem lookup_of_modify {sessions : AssocMap MinerSessionKey (MinerSessionStats F)}
    {key key' : MinerSessionKey} {stats : MinerSessionStats F}
    {f : MinerSessionStats F → MinerSessionStats F}
    (h : (sessions.modify key' f).lookup key = some stats)
    (hf : ∀ old, (f old).userIdentity = old.userIdentity ∧ (f old).closedAt = old.closedAt) :
    ∃ old, sessions.lookup key = some old ∧ stats.userIdentity = old.userIdentity ∧
      stats.closedAt = old.closedAt := by
  rw [AssocMap.lookup_modify, Option.map_eq_some_iff] at h
  obtain ⟨old, hold, rfl⟩ := h
  refine ⟨old, hold, ?_⟩
  split
  · exact hf old
  · exact ⟨rfl, rfl⟩

/-- A record after a call is that of the channel it opens, or keeps the identity of the
record before and, if that was closed, its closing time, unless the call closes it again. -/
theorem lookup_run {call : RegistryCall F} {now : UInt64} {r : MinerStatsRegistry F}
    {key : MinerSessionKey} {stats : MinerSessionStats F}
    (h : (call.run now r).1.sessions.lookup key = some stats) :
    (∃ hash, call = .channelOpened key.downstreamId key.channelId key.channelKind
        stats.userIdentity hash ∧ stats.closedAt = none) ∨
      ∃ old, r.sessions.lookup key = some old ∧ stats.userIdentity = old.userIdentity ∧
        (stats.closedAt = old.closedAt ∨ stats.closedAt = some now ∧ (old.closedAt = none ∨
          call = .channelClosed key.downstreamId key.channelId key.channelKind)) := by
  cases call with
  | channelOpened d c kind u hash =>
    simp only [run, MinerStatsRegistry.recordChannelOpened, AssocMap.lookup_insert_if] at h
    by_cases hkey : key = ⟨d, c, kind⟩
    · rw [if_pos hkey, Option.some.injEq] at h
      subst hkey h
      exact .inl ⟨hash, rfl, rfl⟩
    · rw [if_neg hkey] at h
      exact .inr ⟨stats, h, rfl, .inl rfl⟩
  | shareSeen d c kind =>
    obtain ⟨old, hold, huser, hclosed⟩ := lookup_of_modify h fun _ => ⟨rfl, rfl⟩
    exact .inr ⟨old, hold, huser, .inl hclosed⟩
  | shareAccepted d c kind accepted diff blocks =>
    obtain ⟨old, hold, huser, hclosed⟩ := lookup_of_modify h fun _ => ⟨rfl, rfl⟩
    exact .inr ⟨old, hold, huser, .inl hclosed⟩
  | shareRejected d c kind reason =>
    obtain ⟨old, hold, huser, hclosed⟩ := lookup_of_modify h fun _ => ⟨rfl, rfl⟩
    exact .inr ⟨old, hold, huser, .inl hclosed⟩
  | blockFound d c kind hash blocks => exact .inr ⟨stats, h, rfl, .inl rfl⟩
  | channelClosed d c kind =>
    simp only [run, MinerStatsRegistry.recordChannelClosed, AssocMap.lookup_modify,
      Option.map_eq_some_iff] at h
    obtain ⟨old, hold, rfl⟩ := h
    refine .inr ⟨old, hold, ?_⟩
    by_cases hkey : key = ⟨d, c, kind⟩
    · subst hkey
      rw [if_pos rfl]
      exact ⟨rfl, .inr ⟨rfl, .inr rfl⟩⟩
    · rw [if_neg hkey]
      exact ⟨rfl, .inl rfl⟩
  | downstreamClosed d =>
    simp only [run, MinerStatsRegistry.recordDownstreamClosed, AssocMap.lookup_mapVals,
      Option.map_eq_some_iff] at h
    obtain ⟨old, hold, rfl⟩ := h
    refine .inr ⟨old, hold, ?_⟩
    by_cases hopen : MinerStatsRegistry.isOpenOf d key old = true
    · rw [if_pos hopen]
      simp only [MinerStatsRegistry.isOpenOf, Bool.and_eq_true, Option.isNone_iff_eq_none] at hopen
      exact ⟨rfl, .inr ⟨rfl, .inl hopen.2⟩⟩
    · rw [if_neg hopen]
      exact ⟨rfl, .inl rfl⟩
  | snapshots order =>
    simp only [run, MinerStatsRegistry.snapshots, AssocMap.lookup_retain,
      Option.filter_eq_some_iff] at h
    exact .inr ⟨stats, h.1, rfl, .inl rfl⟩

/-- The only call that tells the history of an opened channel is the one that opens it. -/
theorem opened_of_mem_run {call : RegistryCall F} {now : UInt64} {r : MinerStatsRegistry F}
    {d : DownstreamId} {c : ChannelId} {kind u : Text} {hash : F} {t : UInt64}
    (h : .channelOpened d c kind u hash t ∈ (call.run now r).2) :
    ∃ kind', call = .channelOpened d c kind' u hash := by
  cases call with
  | channelOpened d' c' kind' u' hash' =>
    cases List.mem_singleton.1 h
    exact ⟨kind', rfl⟩
  | shareRejected d' c' kind' reason =>
    simp only [run, MinerStatsRegistry.recordShareRejected] at h
    split at h <;> simp at h
  | channelClosed d' c' kind' =>
    simp only [run, MinerStatsRegistry.recordChannelClosed] at h
    split at h <;> simp at h
  | downstreamClosed d' =>
    simp only [run, MinerStatsRegistry.recordDownstreamClosed] at h
    split at h <;> simp at h
  | shareAccepted d' c' kind' accepted diff blocks => cases List.mem_singleton.1 h
  | blockFound d' c' kind' hash' blocks => cases List.mem_singleton.1 h
  | shareSeen d' c' kind' => cases h
  | snapshots order => cases h

omit [Double F] in
/-- A channel is opened under a key that is not open, and counters stay below
`2 ^ 63`. -/
def Allowed (r : MinerStatsRegistry F) : RegistryCall F → Prop
  | channelOpened d c kind _ _ => r.openSession ⟨d, c, kind⟩ = none
  | shareAccepted _ _ _ accepted _ blocks => accepted.toNat < 2 ^ 63 ∧ blocks.toNat < 2 ^ 63
  | shareRejected d c kind _ => ∀ stats, r.sessions.lookup ⟨d, c, kind⟩ = some stats →
      stats.sharesRejected.toNat + 1 < 2 ^ 63
  | _ => True

/-- No number given to the registry is NaN. -/
def NoNan : RegistryCall F → Prop
  | channelOpened _ _ _ _ hash => Double.isNan hash = false
  | shareAccepted _ _ _ _ diff _ => Double.isNan diff = false
  | _ => True

omit [Double F] in
/-- Whether a share, reject or close comes for a channel that is not open. -/
def late (r : MinerStatsRegistry F) : RegistryCall F → Bool
  | shareAccepted d c kind _ _ _ => (r.openSession ⟨d, c, kind⟩).isNone
  | shareRejected d c kind _ => (r.openSession ⟨d, c, kind⟩).isNone
  | channelClosed d c kind => (r.openSession ⟨d, c, kind⟩).isNone
  | _ => false

end RegistryCall

omit [Double F] in
/-- No two sessions of one miner are open in the registry. -/
def OneOpenPerMiner (network : Network) (r : MinerStatsRegistry F) : Prop :=
  ∀ key key' stats stats' m, r.openSession key = some stats → r.openSession key' = some stats' →
    minerIdFromIdentity lib network stats.userIdentity = some m →
    minerIdFromIdentity lib network stats'.userIdentity = some m → key = key'

/-- A step of the registry, of the writer or of the dashboard. -/
inductive SimStep (network : Network) : SimState F → SimAction F → SimState F → Prop
  | call {s : SimState F} {now : UInt64} {call : RegistryCall F}
      (hallowed : call.Allowed s.registry)
      (hone : OneOpenPerMiner lib network (call.run now s.registry).1) :
      SimStep network s (.call now call)
        ⟨(call.run now s.registry).1,
          s.pending ++ (call.run now s.registry).2.map (⟨·, call.late s.registry⟩), s.history⟩
  | apply {s : SimState F} {order : SessionOrder} (e : Queued F) (pending : List (Queued F))
      (h : s.pending = e :: pending) :
      SimStep network s (.apply order)
        ⟨s.registry, pending, (applyEvent lib network order e.event s.history).2⟩
  | delete {s : SimState F} {minerId : Text} :
      SimStep network s (.delete minerId)
        { s with history :=
          { s.history with db := (deleteOfflineMiner s.history.db minerId).2 } }

/-- A server that has just started on some database, none of whose statements
fails. -/
def SimStart (s : SimState F) : Prop :=
  (∃ db : Db F, openHistory db = (.ok (), s.history.db)) ∧ s.history.db.faults = [] ∧
    s.history.sessions = ∅ ∧ s.registry = .new ∧ s.pending = []

/-! ## The queue -/

omit [Double F] in
/-- The channel a share, reject or close is about. -/
def eventKey : MinerStatsEvent F → Option SessionKey
  | .shareAccepted d c k _ _ _ _ => some ⟨d, c, k⟩
  | .shareRejected d c k _ _ _ => some ⟨d, c, k⟩
  | .channelClosed d c k _ => some ⟨d, c, k⟩
  | _ => none

omit [Double F] in
/-- An event about one channel, which is not live. -/
def MissesLive (live : LiveView F) (event : MinerStatsEvent F) : Prop :=
  ∃ key, eventKey event = some key ∧ live key = none

/-- The queued events can be applied one after the other from the view `live`. -/
def Along (network : Network) (live : LiveView F) : List (Queued F) → Prop
  | [] => OnePerMiner lib network live
  | e :: es => OnePerMiner lib network live ∧ OpensFresh live e.event ∧ Fits e.event ∧
      (e.late → MissesLive live e.event) ∧ Along network (liveAfter e.event live) es

/-- The view after the queued events. -/
def liveAfterQueue (es : List (Queued F)) (live : LiveView F) : LiveView F :=
  liveAfterAll (es.map (·.event)) live

/-- Queueing one more event. -/
theorem Along.concat {lib : AddressLib Addr} {network : Network} {live : LiveView F}
    {es : List (Queued F)} {e : Queued F} (h : Along lib network live es)
    (hfresh : OpensFresh (liveAfterQueue es live) e.event) (hfits : Fits e.event)
    (hlate : e.late → MissesLive (liveAfterQueue es live) e.event)
    (hone : OnePerMiner lib network (liveAfter e.event (liveAfterQueue es live))) :
    Along lib network live (es ++ [e]) := by
  induction es generalizing live with
  | nil => exact ⟨h, hfresh, hfits, hlate, hone⟩
  | cons e' es ih => exact ⟨h.1, h.2.1, h.2.2.1, h.2.2.2.1, ih h.2.2.2.2 hfresh hlate hone⟩

/-! ## The calls -/

section Calls

variable {lib} {network : Network} {r : MinerStatsRegistry F} {live : LiveView F}

omit [Double F] in
/-- A view of a registry with one session per miner has one session per miner. -/
theorem Mirrors.onePerMiner (h : Mirrors r live) (hone : OneOpenPerMiner lib network r) :
    OnePerMiner lib network live := by
  intro k k' l l' m hl hl' hm hm'
  obtain ⟨key, rfl⟩ := h.exists_key k (by simp [hl])
  obtain ⟨key', rfl⟩ := h.exists_key k' (by simp [hl'])
  rw [h.live_eq, Option.map_eq_some_iff] at hl hl'
  obtain ⟨stats, hs, rfl⟩ := hl
  obtain ⟨stats', hs', rfl⟩ := hl'
  rw [hone key key' stats stats' m hs hs' hm hm']

/-- The registry and the view stay in step over a call. -/
theorem Mirrors.run (h : Mirrors r live) {call : RegistryCall F} (hallowed : call.Allowed r)
    (now : UInt64) : Mirrors (call.run now r).1 (liveAfterAll (call.run now r).2 live) := by
  cases call with
  | channelOpened d c kind u hash => exact h.recordChannelOpened now d c kind u hash
  | shareSeen d c kind => exact h.recordShareSeen now d c kind
  | shareAccepted d c kind accepted diff blocks =>
    exact h.recordShareAccepted now d c kind accepted diff blocks
  | shareRejected d c kind reason => exact h.recordShareRejected now d c kind reason hallowed
  | blockFound d c kind hash blocks => exact h.recordBlockFound now d c kind hash blocks
  | channelClosed d c kind => exact h.recordChannelClosed now d c kind
  | downstreamClosed d => exact h.recordDownstreamClosed now d
  | snapshots order => exact h.snapshots now order

/-- What the queue needs to know of an emitted event. -/
structure Emits (r : MinerStatsRegistry F) (live : LiveView F) (call : RegistryCall F)
    (event : MinerStatsEvent F) : Prop where
  fresh : OpensFresh live event
  fits : Fits event
  late : call.late r → MissesLive live event

omit [Double F] in
/-- The key of a channel that is not open is not live. -/
theorem Mirrors.live_eq_none (h : Mirrors r live) (key : MinerSessionKey)
    (hkey : (r.openSession key).isNone) : live key.toSessionKey = none := by
  rw [Option.isNone_iff_eq_none] at hkey
  rw [h.live_eq, hkey, Option.map_none]

/-- A call emits at most one event, and that one can be queued. -/
theorem Mirrors.emits (h : Mirrors r live) {call : RegistryCall F} (hallowed : call.Allowed r)
    (hnan : call.NoNan) (now : UInt64) :
    (call.run now r).2 = [] ∨ ∃ event, (call.run now r).2 = [event] ∧ Emits r live call event := by
  cases call with
  | channelOpened d c kind u hash =>
    refine .inr ⟨_, rfl, ?_, hnan, fun hl => by cases hl⟩
    rintro _ _ _ _ _ _ ⟨⟩
    exact h.live_eq_none ⟨d, c, kind⟩ (Option.isNone_iff_eq_none.2 hallowed)
  | shareSeen d c kind => exact .inl rfl
  | shareAccepted d c kind accepted diff blocks =>
    refine .inr ⟨_, rfl, by rintro _ _ _ _ _ _ ⟨⟩, ⟨hallowed.1, hnan, hallowed.2⟩, fun hl => ?_⟩
    exact ⟨_, rfl, h.live_eq_none ⟨d, c, kind⟩ hl⟩
  | shareRejected d c kind reason =>
    rcases r.recordShareRejected_events now d c kind reason hallowed with
      ⟨-, hevents⟩ | ⟨stats, hl, hevents⟩
    · exact .inl hevents
    · refine .inr ⟨_, hevents, by rintro _ _ _ _ _ _ ⟨⟩, ?_, fun hlate => ?_⟩
      · have hlt := hallowed stats hl
        change (stats.sharesRejected + 1).toNat < 2 ^ 63
        rw [UInt64.toNat_add]
        simp only [UInt64.toNat_one]
        omega
      · exact ⟨_, rfl, h.live_eq_none ⟨d, c, kind⟩ hlate⟩
  | blockFound d c kind hash blocks =>
    exact .inr ⟨_, rfl, by rintro _ _ _ _ _ _ ⟨⟩, trivial, fun hl => by cases hl⟩
  | channelClosed d c kind =>
    simp only [RegistryCall.run, MinerStatsRegistry.recordChannelClosed]
    split
    · refine .inr ⟨_, rfl, by rintro _ _ _ _ _ _ ⟨⟩, trivial, fun hlate => ?_⟩
      exact ⟨_, rfl, h.live_eq_none ⟨d, c, kind⟩ hlate⟩
    · exact .inl rfl
  | downstreamClosed d =>
    rcases r.recordDownstreamClosed_events now d with ⟨hevents, -⟩ | hevents
    · exact .inl hevents
    · exact .inr ⟨_, hevents, by rintro _ _ _ _ _ _ ⟨⟩, trivial, fun hl => by cases hl⟩
  | snapshots order => exact .inl rfl

end Calls

/-! ## The invariant -/

/-- The history follows a view of the live sessions from which the queue leads to
the registry's. -/
def Simulates (network : Network) (s : SimState F) : Prop :=
  ∃ live, Follows lib network s.history live ∧ s.history.db.faults = [] ∧
    Along lib network live s.pending ∧ Mirrors s.registry (liveAfterQueue s.pending live)

/-- No number given to the registry by an action is NaN. -/
def SimAction.NoNan : SimAction F → Prop
  | .call _ c => c.NoNan
  | _ => True

section Invariant

variable {lib} {network : Network} {s s' : SimState F} {a : SimAction F}

theorem simulates_start (h : SimStart s) : Simulates lib network s := by
  obtain ⟨-, hf, hsess, hreg, hpend⟩ := h
  refine ⟨fun _ => none, ⟨fun k => by simp [hsess], by simp⟩, hf, ?_, ?_⟩
  · rw [hpend]
    intro k k' l l' m hl
    cases hl
  · rw [hpend, hreg]
    exact ⟨fun key => by simp [liveAfterQueue], by simp [liveAfterQueue]⟩

theorem Simulates.call {now : UInt64} {call : RegistryCall F} (h : Simulates lib network s)
    (hallowed : call.Allowed s.registry)
    (hone : OneOpenPerMiner lib network (call.run now s.registry).1) (hnan : call.NoNan) :
    Simulates lib network ⟨(call.run now s.registry).1,
      s.pending ++ (call.run now s.registry).2.map (⟨·, call.late s.registry⟩), s.history⟩ := by
  obtain ⟨live, hfollows, hf, halong, hmirrors⟩ := h
  have hrun := hmirrors.run hallowed now
  refine ⟨live, hfollows, hf, ?_⟩
  rcases hmirrors.emits hallowed hnan now with hevents | ⟨event, hevents, hemits⟩
  · simp only [hevents, List.map_nil, List.append_nil]
    rw [hevents] at hrun
    exact ⟨halong, hrun⟩
  · simp only [hevents, List.map_cons, List.map_nil]
    rw [hevents, liveAfterAll_singleton] at hrun
    refine ⟨halong.concat hemits.fresh hemits.fits hemits.late (hrun.onePerMiner hone), ?_⟩
    rw [liveAfterQueue, List.map_append, liveAfterAll, List.foldl_append]
    exact hrun

theorem Along.head {live : LiveView F} {es : List (Queued F)} (h : Along lib network live es) :
    OnePerMiner lib network live := by
  cases es with
  | nil => exact h
  | cons e es => exact h.1

/-- An event at the head of the queue is applied, whatever it is. -/
theorem Follows.queued {live : LiveView F} {e : Queued F} {es : List (Queued F)}
    (order : SessionOrder) {hs : HistoryState F} (h : Follows lib network hs live)
    (hf : hs.db.faults = []) (halong : Along lib network live (e :: es)) :
    Follows lib network (applyEvent lib network order e.event hs).2 (liveAfter e.event live) ∧
      (applyEvent lib network order e.event hs).2.db.faults = [] := by
  obtain ⟨hone, hfresh, hfits, -, hrest⟩ := halong
  obtain ⟨hs', happ, hf'⟩ := applyEvent_of_fits lib network order hf hfits
  rw [happ]
  exact ⟨h.event hone hrest.head hfresh happ, hf'⟩

omit [Double F] in
/-- A deletion removes no row of a live session. -/
theorem Follows.delete {live : LiveView F} {hs : HistoryState F} {db : Db F} {deleted : Bool}
    {minerId : Text} (h : Follows lib network hs live)
    (hd : deleteOfflineMiner hs.db minerId = (.ok deleted, db)) :
    Follows lib network { hs with db := db } live := by
  obtain ⟨hdel, hrows⟩ := deleteOfflineMiner_eq_ok hd
  refine ⟨h.sessions_eq, fun k l m hl hm => ?_⟩
  obtain ⟨row, hrow, hshow⟩ := h.exists_row k l m hl hm
  refine ⟨row, ?_, hshow⟩
  rw [hrows, if_neg, hrow]
  rintro ⟨hdeleted, rfl⟩
  obtain ⟨row', hrow', hc⟩ := hdel.1 hdeleted
  rw [hrow, Option.some.injEq] at hrow'
  have h1 := hshow.connected
  rw [hrow', hc] at h1
  exact absurd h1 (by decide)

theorem Simulates.step (h : Simulates lib network s) (hs : SimStep lib network s a s')
    (hnan : a.NoNan) : Simulates lib network s' := by
  cases hs with
  | call hallowed hone => exact h.call hallowed hone hnan
  | @apply order e pending hp =>
    obtain ⟨live, hfollows, hf, halong, hmirrors⟩ := h
    rw [hp] at halong hmirrors
    obtain ⟨hfollows', hf'⟩ := hfollows.queued order hf halong
    exact ⟨_, hfollows', hf', halong.2.2.2.2, hmirrors⟩
  | @delete minerId =>
    obtain ⟨live, hfollows, hf, halong, hmirrors⟩ := h
    obtain ⟨deleted, t, hd⟩ := deleteOfflineMiner_of_faultFree hf minerId
    rw [hd]
    exact ⟨live, hfollows.delete hd, rfl, halong, hmirrors⟩

end Invariant

/-! ## What the invariant says -/

/-- A miner read from the history shows an open session of the registry. -/
structure ShowsSession (stats : MinerSessionStats F) (miner : KnownMiner F) : Prop where
  connected : miner.connected = true
  userIdentity : miner.userIdentity = stats.userIdentity
  openedAt : miner.openedAt = some stats.openedAt
  nominalHashrate : miner.nominalHashrate = stats.nominalHashrate
  sharesAccepted : miner.sharesAccepted = stats.sharesAccepted
  bestDiff : miner.bestDiff = stats.bestDiff
  blocksFound : miner.blocksFound = stats.blocksFound
  sharesRejected : miner.sharesRejected = stats.sharesRejected

/-- The row of the miner of every open session shows the session. -/
def SessionsShown (network : Network) (s : SimState F) : Prop :=
  ∀ key stats m, s.registry.openSession key = some stats →
    minerIdFromIdentity lib network stats.userIdentity = some m →
    ∃ row, s.history.db.knownMiners.lookup m = some row ∧ row.connected = 1 ∧
      ShowsSession stats (row.toKnownMiner m)

/-- If the writer applies an event about a channel that was not open when it was
emitted, no row changes. -/
def LateKeepsRows (t : Transition (SimState F) (SimAction F)) : Prop :=
  ∀ order e pending, t.action = .apply order → t.before.pending = e :: pending → e.late →
    ∀ m, t.after.history.db.knownMiners.lookup m = t.before.history.db.knownMiners.lookup m

variable {lib} {network : Network}

omit [Double F] in
theorem Shows.showsSession {stats : MinerSessionStats F} {row : KnownMinerRow F}
    (h : Shows stats.toLive row) (m : Text) : ShowsSession stats (row.toKnownMiner m) where
  connected := by simp [KnownMinerRow.toKnownMiner, h.connected]
  userIdentity := h.userIdentity
  openedAt := by simp [KnownMinerRow.toKnownMiner, h.openedAt, MinerSessionStats.toLive]
  nominalHashrate := h.nominalHashrate
  sharesAccepted := by
    simp [KnownMinerRow.toKnownMiner, h.sharesAccepted, MinerSessionStats.toLive]
  bestDiff := h.bestDiff
  blocksFound := by simp [KnownMinerRow.toKnownMiner, h.blocksFound, MinerSessionStats.toLive]
  sharesRejected := by
    simp [KnownMinerRow.toKnownMiner, h.sharesRejected, MinerSessionStats.toLive]

theorem Simulates.sessionsShown {s : SimState F} (h : Simulates lib network s)
    (hp : s.pending = []) : SessionsShown lib network s := by
  obtain ⟨live, hfollows, -, -, hmirrors⟩ := h
  rw [hp] at hmirrors
  intro key stats m hopen hm
  have hlive : live key.toSessionKey = some stats.toLive := by
    rw [← Option.map_some (f := MinerSessionStats.toLive), ← hopen]
    exact hmirrors.live_eq key
  obtain ⟨row, hrow, hshow⟩ := hfollows.exists_row _ _ m hlive hm
  exact ⟨row, hrow, hshow.connected, hshow.showsSession m⟩

/-- An event about one channel without a session in the history changes no row. -/
theorem rowAfter_of_eventKey {event : MinerStatsEvent F} {key : SessionKey}
    {sessions : SessionMap} (hkey : eventKey event = some key)
    (hnone : sessions.lookup key = none) (m : Text) (old : Option (KnownMinerRow F)) :
    rowAfter lib network event sessions m old = old := by
  cases event <;> simp only [eventKey, Option.some.injEq, reduceCtorEq] at hkey
  all_goals
    subst hkey
    simp [rowAfter, hnone]

theorem Simulates.lateKeepsRows {s s' : SimState F} {a : SimAction F}
    (h : Simulates lib network s) (hs : SimStep lib network s a s') :
    LateKeepsRows ⟨s, a, s'⟩ := by
  rintro order e pending rfl hp hlate m
  cases hs with
  | apply e' pending' hp' =>
    obtain ⟨rfl, rfl⟩ := List.cons.inj (hp.symm.trans hp')
    obtain ⟨live, hfollows, hf, halong, -⟩ := h
    simp only [hp'] at halong
    obtain ⟨key, hkey, hnone⟩ := halong.2.2.2.1 hlate
    obtain ⟨hs', happ, -⟩ := applyEvent_of_fits lib network order hf halong.2.2.1
    have hsess : s.history.sessions.lookup key = none := by
      rw [hfollows.sessions_eq, hnone, Option.bind_none]
    simp only [happ]
    rw [(applyEvent_eq_ok lib happ).2 m, rowAfter_of_eventKey hkey hsess]

/-- **The history simulates the registry.**  As long as no NaN is reported, in
every state a run reaches in which all emitted events have been applied, the row
of each open session's miner is connected and shows the session; and an event
about a channel that was closed already when it was emitted changes no row. -/
theorem history_simulates_registry {ts : List (Transition (SimState F) (SimAction F))}
    {s : SimState F} (h : Run SimStart (SimStep lib network) ts s)
    (hnan : ∀ t ∈ ts, t.action.NoNan) :
    (s.pending = [] → SessionsShown lib network s) ∧ ∀ t ∈ ts, LateKeepsRows t := by
  have hinit : ∀ s : SimState F, SimStart s → Simulates lib network s :=
    fun _ => simulates_start
  have hstep : ∀ (s : SimState F) a s', Simulates lib network s → SimStep lib network s a s' →
      a.NoNan → Simulates lib network s' := fun _ _ _ => Simulates.step
  refine ⟨(h.invariant_of hinit hstep hnan).sessionsShown, fun t ht => ?_⟩
  obtain ⟨hbefore, hs, -⟩ := h.forall_transition_of hinit hstep hnan t ht
  exact hbefore.lateKeepsRows hs

/-! ## One session -/

/-- A server started on an empty database. -/
def newServer : SimState ExactDouble := ⟨.new, [], ⟨(openHistory ⟨∅, []⟩).2, ∅⟩⟩

/-- Alice opens a channel and names a hashrate. -/
def aliceOpensAt (hash : ExactDouble) : RegistryCall ExactDouble :=
  .channelOpened 1 2 .standard aliceAddress hash

/-- The registry with Alice's channel, and the event of its opening. -/
def aliceOpened (hash : ExactDouble) : SimState ExactDouble :=
  ⟨((aliceOpensAt hash).run 10 .new).1,
    ((aliceOpensAt hash).run 10 .new).2.map (⟨·, false⟩), newServer.history⟩

/-- The state after the event is applied. -/
def aliceApplied (hash : ExactDouble) : SimState ExactDouble :=
  ⟨(aliceOpened hash).registry, [], (applyEvent tableLib .regtest default
    (.channelOpened 1 2 "standard".toList aliceAddress hash 10) newServer.history).2⟩

theorem run_aliceApplied (hash : ExactDouble) :
    Run SimStart (SimStep tableLib .regtest)
      [⟨newServer, .call 10 (aliceOpensAt hash), aliceOpened hash⟩,
        ⟨aliceOpened hash, .apply default, aliceApplied hash⟩] (aliceApplied hash) := by
  refine ((Run.start ⟨⟨⟨∅, []⟩, rfl⟩, rfl, rfl, rfl, rfl⟩).next (.call rfl ?_)).next
    (.apply ⟨.channelOpened 1 2 "standard".toList aliceAddress hash 10, false⟩ [] rfl)
  -- Only one channel was opened, so its miner has one session.
  have hone : ∀ key : MinerSessionKey, ∀ stats,
      ((aliceOpensAt hash).run 10 .new).1.openSession key = some stats →
        key = ⟨1, 2, .standard⟩ := by
    intro key stats h
    rw [aliceOpensAt, RegistryCall.run,
      MinerStatsRegistry.openSession_recordChannelOpened] at h
    split at h
    · assumption
    · cases h
  intro key key' stats stats' m h h' _ _
  rw [hone key stats h, hone key' stats' h']

/-- Alice's row shows her session. -/
theorem history_simulates_registry_alice :
    SessionsShown tableLib .regtest (aliceApplied (.num 5)) := by
  refine (history_simulates_registry (run_aliceApplied (.num 5)) ?_).1 rfl
  simp only [List.forall_mem_cons, List.not_mem_nil, false_implies, implies_true, and_true]
  exact ⟨rfl, trivial⟩

/-- A hashrate that is NaN is refused by the table: Alice's session is open, its
event has been applied, and she has no row. -/
theorem history_simulates_registry_fails_nan :
    ¬ ∀ ts s, Run SimStart (SimStep (F := ExactDouble) tableLib .regtest) ts s →
      s.pending = [] → SessionsShown tableLib .regtest s := by
  intro hall
  obtain ⟨row, hrow, -⟩ := hall _ _ (run_aliceApplied .nan) rfl ⟨1, 2, .standard⟩ _
    (minerId .regtest aliceAddress "default".toList) rfl rfl
  cases hrow

end CanaryMining
