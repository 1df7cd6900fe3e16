import CanaryMining.History.Writer

/-!
# Live sessions

What the registry and the history are both about: which channels are open, and
what is known of each.  An event changes this view of the server in an obvious
way, `liveAfter`.

The registry refines the view: a call changes the registry as its events change
the view.

## Main definitions

* `LiveSession`, `LiveView` — what is known of an open channel.
* `liveAfter` — the view after an event.
* `Mirrors` — the registry holds the view.
-/

namespace CanaryMining

/-- What is known of an open channel. -/
structure LiveSession (F : Type) where
  userIdentity : Text
  openedAt : UInt64
  nominalHashrate : F
  sharesAccepted : UInt64
  bestDiff : F
  blocksFound : UInt64
  sharesRejected : UInt64

/-- The open channels. -/
abbrev LiveView (F : Type) := SessionKey → Option (LiveSession F)

/-- The key the history gives a session of the registry. -/
def MinerSessionKey.toSessionKey (key : MinerSessionKey) : SessionKey :=
  ⟨key.downstreamId, key.channelId, key.channelKind.asStr⟩

theorem MinerSessionKey.toSessionKey_injective : Function.Injective toSessionKey := by
  rintro ⟨d, c, k⟩ ⟨d', c', k'⟩ h
  simp only [toSessionKey, SessionKey.mk.injEq] at h
  rw [h.1, h.2.1, MinerChannelKind.asStr_injective h.2.2]

@[simp] theorem MinerSessionKey.toSessionKey_inj {key key' : MinerSessionKey} :
    key.toSessionKey = key'.toSessionKey ↔ key = key' :=
  toSessionKey_injective.eq_iff

variable {F : Type} [Double F]

/-- The open channels after an event. -/
def liveAfter (event : MinerStatsEvent F) (live : LiveView F) : LiveView F := fun key =>
  match event with
  | .channelOpened d c k u hash t => if key = ⟨d, c, k⟩ then
      some ⟨u, t, hash, 0, Double.zero, 0, 0⟩ else live key
  | .channelClosed d c k _ => if key = ⟨d, c, k⟩ then none else live key
  | .downstreamClosed d _ => if key.isOf d then none else live key
  | .shareAccepted d c k accepted diff blocks _ => if key = ⟨d, c, k⟩ then
      (live key).map fun l =>
        { l with sharesAccepted := accepted, bestDiff := diff, blocksFound := blocks }
    else live key
  | .shareRejected d c k _ rejected _ => if key = ⟨d, c, k⟩ then
      (live key).map fun l => { l with sharesRejected := rejected } else live key
  | .blockFound .. => live key

/-! ## The registry -/

section Registry

open MinerStatsRegistry

/-- What a record of the registry knows of its channel. -/
def MinerSessionStats.toLive (stats : MinerSessionStats F) : LiveSession F :=
  ⟨stats.userIdentity, stats.openedAt, stats.nominalHashrate, stats.sharesAccepted,
    stats.bestDiff, stats.blocksFound, stats.sharesRejected⟩

/-- The open sessions of the registry are the live ones. -/
structure Mirrors (r : MinerStatsRegistry F) (live : LiveView F) : Prop where
  live_eq : ∀ key : MinerSessionKey,
    live key.toSessionKey = (r.openSession key).map MinerSessionStats.toLive
  exists_key : ∀ k, (live k).isSome → ∃ key : MinerSessionKey, k = key.toSessionKey

omit [Double F] in
/-- A call that shows in the registry as its event does in the view. -/
theorem Mirrors.of_live_eq {r r' : MinerStatsRegistry F} {live live' : LiveView F}
    (h : Mirrors r live)
    (heq : ∀ key : MinerSessionKey,
      live' key.toSessionKey = (r'.openSession key).map MinerSessionStats.toLive)
    (hkey : ∀ k, (live' k).isSome →
      (live k).isSome ∨ ∃ key : MinerSessionKey, k = key.toSessionKey) :
    Mirrors r' live' :=
  ⟨heq, fun k hk => (hkey k hk).elim (h.exists_key k) id⟩

/-- The view after the events of a call. -/
def liveAfterAll (events : List (MinerStatsEvent F)) (live : LiveView F) : LiveView F :=
  events.foldl (fun live event => liveAfter event live) live

@[simp] theorem liveAfterAll_nil (live : LiveView F) : liveAfterAll [] live = live := rfl

@[simp] theorem liveAfterAll_singleton (event : MinerStatsEvent F) (live : LiveView F) :
    liveAfterAll [event] live = liveAfter event live := rfl

variable {r : MinerStatsRegistry F} {live : LiveView F} (now : UInt64) (d : DownstreamId)
  (c : ChannelId) (kind : MinerChannelKind)

/-- The key of an event, for a key of the registry. -/
theorem toSessionKey_eq_iff {key : MinerSessionKey} :
    key.toSessionKey = ⟨d, c, kind.asStr⟩ ↔ key = ⟨d, c, kind⟩ :=
  (MinerSessionKey.toSessionKey_inj : _ = (⟨d, c, kind⟩ : MinerSessionKey).toSessionKey ↔ _)

theorem Mirrors.recordChannelOpened (h : Mirrors r live) (u : Text) (hash : F) :
    Mirrors (r.recordChannelOpened now d c kind u hash).1
      (liveAfterAll (r.recordChannelOpened now d c kind u hash).2 live) := by
  change Mirrors _ (liveAfter (.channelOpened d c kind.asStr u hash now) live)
  refine h.of_live_eq (fun key => ?_) (fun k hk => ?_)
  · rw [openSession_recordChannelOpened]
    simp only [liveAfter, toSessionKey_eq_iff]
    split
    · rfl
    · exact h.live_eq key
  · simp only [liveAfter] at hk
    split at hk
    · rename_i he
      exact .inr ⟨⟨d, c, kind⟩, he⟩
    · exact .inl hk

omit [Double F] in
theorem Mirrors.recordShareSeen (h : Mirrors r live) :
    Mirrors (r.recordShareSeen now d c kind) live := by
  refine h.of_live_eq (fun key => ?_) (fun k hk => .inl hk)
  rw [openSession_recordShareSeen, h.live_eq, Option.map_map]
  congr 1
  funext stats
  simp only [Function.comp_apply]
  split <;> rfl

theorem Mirrors.recordShareAccepted (h : Mirrors r live) (accepted : UInt64) (diff : F)
    (blocks : UInt64) :
    Mirrors (r.recordShareAccepted now d c kind accepted diff blocks).1
      (liveAfterAll (r.recordShareAccepted now d c kind accepted diff blocks).2 live) := by
  change Mirrors _ (liveAfter (.shareAccepted d c kind.asStr accepted diff blocks now) live)
  refine h.of_live_eq (fun key => ?_) (fun k hk => .inl ?_)
  · rw [openSession_recordShareAccepted]
    simp only [liveAfter, toSessionKey_eq_iff, h.live_eq, Option.map_map]
    split <;> rfl
  · simp only [liveAfter] at hk
    split at hk
    · rwa [Option.isSome_map] at hk
    · exact hk

/-- The count of rejected shares reaches the history as long as it does not wrap. -/
theorem Mirrors.recordShareRejected (h : Mirrors r live) (reason : Text)
    (hcount : ∀ stats, r.sessions.lookup ⟨d, c, kind⟩ = some stats →
      stats.sharesRejected.toNat + 1 < 2 ^ 63) :
    Mirrors (r.recordShareRejected now d c kind reason).1
      (liveAfterAll (r.recordShareRejected now d c kind reason).2 live) := by
  rcases r.recordShareRejected_events now d c kind reason hcount with
    ⟨hl, hevents⟩ | ⟨stats, hl, hevents⟩
  · -- There is no record, so neither the registry nor the view changes.
    rw [hevents, liveAfterAll_nil]
    refine h.of_live_eq (fun key => ?_) (fun k hk => .inl hk)
    rw [openSession_recordShareRejected, h.live_eq]
    by_cases hkey : key = ⟨d, c, kind⟩
    · subst hkey
      simp [openSession, hl]
    · simp [hkey]
  · rw [hevents, liveAfterAll_singleton]
    refine h.of_live_eq (fun key => ?_) (fun k hk => .inl ?_)
    · rw [openSession_recordShareRejected]
      simp only [liveAfter, toSessionKey_eq_iff, h.live_eq, Option.map_map]
      by_cases hkey : key = ⟨d, c, kind⟩
      · subst hkey
        by_cases hc : stats.closedAt = none <;>
          simp [openSession, hl, hc, Option.filter, MinerSessionStats.toLive,
            MinerSessionStats.reject]
      · simp [hkey, Function.comp_def]
    · simp only [liveAfter] at hk
      split at hk
      · rwa [Option.isSome_map] at hk
      · exact hk

theorem Mirrors.recordBlockFound (h : Mirrors r live) (hash : Text) (blocks : UInt64) :
    Mirrors (r.recordBlockFound now d c kind hash blocks).1
      (liveAfterAll (r.recordBlockFound now d c kind hash blocks).2 live) :=
  h

theorem Mirrors.recordChannelClosed (h : Mirrors r live) :
    Mirrors (r.recordChannelClosed now d c kind).1
      (liveAfterAll (r.recordChannelClosed now d c kind).2 live) := by
  by_cases hsome : (r.sessions.lookup ⟨d, c, kind⟩).isSome
  · have hevents : (r.recordChannelClosed now d c kind).2 =
        [.channelClosed d c kind.asStr now] := by
      simp [MinerStatsRegistry.recordChannelClosed, hsome]
    rw [hevents, liveAfterAll_singleton]
    refine h.of_live_eq (fun key => ?_) (fun k hk => .inl ?_)
    · rw [openSession_recordChannelClosed]
      simp only [liveAfter, toSessionKey_eq_iff, h.live_eq]
      split <;> rfl
    · simp only [liveAfter] at hk
      split at hk
      · cases hk
      · exact hk
  · have hevents : (r.recordChannelClosed now d c kind).2 = [] := by
      simp [MinerStatsRegistry.recordChannelClosed, hsome]
    rw [hevents, liveAfterAll_nil]
    refine h.of_live_eq (fun key => ?_) (fun k hk => .inl hk)
    rw [openSession_recordChannelClosed, h.live_eq]
    split
    · rename_i hkey
      subst hkey
      rw [Option.not_isSome_iff_eq_none] at hsome
      simp [openSession, hsome]
    · rfl

theorem Mirrors.recordDownstreamClosed (h : Mirrors r live) :
    Mirrors (r.recordDownstreamClosed now d).1
      (liveAfterAll (r.recordDownstreamClosed now d).2 live) := by
  rcases r.recordDownstreamClosed_events now d with ⟨hevents, hnone⟩ | hevents
  · rw [hevents]
    refine h.of_live_eq (fun key => ?_) (fun k hk => .inl hk)
    change live key.toSessionKey = _
    rw [openSession_recordDownstreamClosed, h.live_eq]
    split
    · rw [hnone key ‹_›]
    · rfl
  · rw [hevents, liveAfterAll_singleton]
    refine h.of_live_eq (fun key => ?_) (fun k hk => .inl ?_)
    · rw [openSession_recordDownstreamClosed]
      have hof : key.toSessionKey.isOf d = true ↔ key.downstreamId = d := by
        simp [SessionKey.isOf, MinerSessionKey.toSessionKey]
      simp only [liveAfter, hof, h.live_eq]
      split <;> rfl
    · simp only [liveAfter] at hk
      split at hk
      · cases hk
      · exact hk

omit [Double F] in
theorem Mirrors.snapshots (h : Mirrors r live) (order : IterOrder (MinerSessionSnapshot F)) :
    Mirrors (r.snapshots now order).1 live :=
  h.of_live_eq (fun key => by rw [openSession_snapshots, h.live_eq]) fun _ hk => .inl hk

end Registry

end CanaryMining
