import CanaryMining.Lib.AssocMap
import CanaryMining.Lib.Double
import CanaryMining.Lib.Text

/-!
# The miner statistics registry

`MinerStatsRegistry` keeps one record for every channel opened since the server
started, closed channels included for seven days, and emits an event for most
calls.  Every call takes its lock once, so it is one function of the sessions
and the clock here.

## Main definitions

* `MinerSessionStats` — the record of a channel.
* `MinerStatsEvent` — what the history writer is told.
* `MinerStatsRegistry` and its `record…` operations.
-/

namespace CanaryMining

/-- `DownstreamId`, a number the server never runs out of. -/
abbrev DownstreamId := ℕ

/-- `ChannelId`. -/
abbrev ChannelId := UInt32

/-- `MinerChannelKind`. -/
inductive MinerChannelKind
  | standard
  | extended
  deriving DecidableEq, Repr

/-- `MinerChannelKind::as_str`. -/
def MinerChannelKind.asStr : MinerChannelKind → Text
  | standard => "standard".toList
  | extended => "extended".toList

theorem MinerChannelKind.asStr_injective : Function.Injective asStr := by
  intro a b h
  cases a <;> cases b <;> first | rfl | exact absurd h (by decide)

/-- `MinerSessionKey`. -/
structure MinerSessionKey where
  downstreamId : DownstreamId
  channelId : ChannelId
  channelKind : MinerChannelKind
  deriving DecidableEq, Repr

/-- `MinerSessionStats`.  The three fields that repeat the key are the key's. -/
structure MinerSessionStats (F : Type) where
  userIdentity : Text
  openedAt : UInt64
  closedAt : Option UInt64
  lastSeenAt : UInt64
  nominalHashrate : F
  sharesAccepted : UInt64
  bestDiff : F
  blocksFound : UInt64
  sharesRejected : UInt64
  sharesRejectedByReason : AssocMap Text UInt64

/-- `MinerSessionSnapshot`. -/
structure MinerSessionSnapshot (F : Type) where
  downstreamId : DownstreamId
  channelId : ChannelId
  channelKind : Text
  userIdentity : Text
  openedAt : UInt64
  closedAt : Option UInt64
  lastSeenAt : UInt64
  nominalHashrate : F
  sharesAccepted : UInt64
  bestDiff : F
  blocksFound : UInt64
  sharesRejected : UInt64
  sharesRejectedByReason : AssocMap Text UInt64

/-- `MinerStatsEvent`. -/
inductive MinerStatsEvent (F : Type)
  | channelOpened (downstreamId : DownstreamId) (channelId : ChannelId) (channelKind : Text)
      (userIdentity : Text) (nominalHashrate : F) (openedAt : UInt64)
  | channelClosed (downstreamId : DownstreamId) (channelId : ChannelId) (channelKind : Text)
      (closedAt : UInt64)
  | downstreamClosed (downstreamId : DownstreamId) (closedAt : UInt64)
  | shareAccepted (downstreamId : DownstreamId) (channelId : ChannelId) (channelKind : Text)
      (sharesAccepted : UInt64) (bestDiff : F) (blocksFound : UInt64) (lastSeenAt : UInt64)
  | shareRejected (downstreamId : DownstreamId) (channelId : ChannelId) (channelKind : Text)
      (reason : Text) (sharesRejected : UInt64) (lastSeenAt : UInt64)
  | blockFound (downstreamId : DownstreamId) (channelId : ChannelId) (channelKind : Text)
      (shareHash : Text) (blocksFound : UInt64) (foundAt : UInt64)
  deriving DecidableEq

/-- `MinerStatsRegistry`; the event sender is the second component of what the
operations return. -/
structure MinerStatsRegistry (F : Type) where
  sessions : AssocMap MinerSessionKey (MinerSessionStats F)

/-- `CLOSED_SESSION_RETENTION_SECS`. -/
def closedSessionRetentionSecs : UInt64 := 7 * 24 * 60 * 60

/-- `u64::saturating_sub`. -/
def satSub (a b : UInt64) : UInt64 := if b ≤ a then a - b else 0

theorem satSub_toNat (a b : UInt64) : (satSub a b).toNat = a.toNat - b.toNat := by
  unfold satSub
  split
  · rename_i h
    exact UInt64.toNat_sub_of_le _ _ h
  · rename_i h
    rw [UInt64.le_iff_toNat_le] at h
    rw [UInt64.toNat_zero]
    omega

namespace MinerSessionStats

variable {F : Type}

/-- The record after one more rejected share. -/
def reject (stats : MinerSessionStats F) (now : UInt64) (reason : Text) :
    MinerSessionStats F :=
  { stats with
    lastSeenAt := now
    sharesRejected := stats.sharesRejected + 1
    sharesRejectedByReason := stats.sharesRejectedByReason.insert reason
      ((stats.sharesRejectedByReason.lookup reason).getD 0 + 1) }

/-- The record of a channel that closes. -/
def close (stats : MinerSessionStats F) (now : UInt64) : MinerSessionStats F :=
  { stats with closedAt := some now, lastSeenAt := now }

/-- Whether a poll at `now` keeps a record. -/
def retained (stats : MinerSessionStats F) (now : UInt64) : Bool :=
  match stats.closedAt with
  | none => true
  | some closedAt => satSub now closedAt ≤ closedSessionRetentionSecs

/-- What a poll drops, no later poll lists. -/
theorem retained_of_le {stats : MinerSessionStats F} {now now' : UInt64} (hle : now ≤ now')
    (h : stats.retained now' = true) : stats.retained now = true := by
  unfold retained at *
  cases hc : stats.closedAt with
  | none => rfl
  | some closedAt =>
    simp only [hc, decide_eq_true_eq, UInt64.le_iff_toNat_le, satSub_toNat] at h hle ⊢
    omega

end MinerSessionStats

namespace MinerStatsRegistry

variable {F : Type}

/-- The registry of a new server. -/
def new : MinerStatsRegistry F := ⟨∅⟩

/-- `record_channel_opened`. -/
def recordChannelOpened [Double F] (r : MinerStatsRegistry F) (now : UInt64)
    (downstreamId : DownstreamId) (channelId : ChannelId) (channelKind : MinerChannelKind)
    (userIdentity : Text) (nominalHashrate : F) :
    MinerStatsRegistry F × List (MinerStatsEvent F) :=
  let stats : MinerSessionStats F :=
    { userIdentity := userIdentity
      openedAt := now
      closedAt := none
      lastSeenAt := now
      nominalHashrate := nominalHashrate
      sharesAccepted := 0
      bestDiff := Double.zero
      blocksFound := 0
      sharesRejected := 0
      sharesRejectedByReason := ∅ }
  (⟨r.sessions.insert ⟨downstreamId, channelId, channelKind⟩ stats⟩,
    [.channelOpened downstreamId channelId channelKind.asStr userIdentity nominalHashrate now])

/-- `record_share_seen`. -/
def recordShareSeen (r : MinerStatsRegistry F) (now : UInt64) (downstreamId : DownstreamId)
    (channelId : ChannelId) (channelKind : MinerChannelKind) : MinerStatsRegistry F :=
  ⟨r.sessions.modify ⟨downstreamId, channelId, channelKind⟩ fun stats =>
    { stats with lastSeenAt := now }⟩

/-- `record_share_rejected`.  The event is emitted when the new count is not
zero, which a missing record leaves it. -/
def recordShareRejected (r : MinerStatsRegistry F) (now : UInt64) (downstreamId : DownstreamId)
    (channelId : ChannelId) (channelKind : MinerChannelKind) (reason : Text) :
    MinerStatsRegistry F × List (MinerStatsEvent F) :=
  let key := ⟨downstreamId, channelId, channelKind⟩
  let rejected := match r.sessions.lookup key with
    | some stats => stats.sharesRejected + 1
    | none => 0
  (⟨r.sessions.modify key fun stats => stats.reject now reason⟩,
    if 0 < rejected then
      [.shareRejected downstreamId channelId channelKind.asStr reason rejected now]
    else [])

/-- `record_share_accepted`.  The event is emitted whether or not there is a
record. -/
def recordShareAccepted (r : MinerStatsRegistry F) (now : UInt64) (downstreamId : DownstreamId)
    (channelId : ChannelId) (channelKind : MinerChannelKind) (sharesAccepted : UInt64)
    (bestDiff : F) (blocksFound : UInt64) : MinerStatsRegistry F × List (MinerStatsEvent F) :=
  (⟨r.sessions.modify ⟨downstreamId, channelId, channelKind⟩ fun stats =>
      { stats with
        lastSeenAt := now
        sharesAccepted := sharesAccepted
        bestDiff := bestDiff
        blocksFound := blocksFound }⟩,
    [.shareAccepted downstreamId channelId channelKind.asStr sharesAccepted bestDiff blocksFound
      now])

/-- `record_block_found`. -/
def recordBlockFound (r : MinerStatsRegistry F) (now : UInt64) (downstreamId : DownstreamId)
    (channelId : ChannelId) (channelKind : MinerChannelKind) (shareHash : Text)
    (blocksFound : UInt64) : MinerStatsRegistry F × List (MinerStatsEvent F) :=
  (r, [.blockFound downstreamId channelId channelKind.asStr shareHash blocksFound now])

/-- `record_channel_closed`.  A record that is closed already is closed again. -/
def recordChannelClosed (r : MinerStatsRegistry F) (now : UInt64) (downstreamId : DownstreamId)
    (channelId : ChannelId) (channelKind : MinerChannelKind) :
    MinerStatsRegistry F × List (MinerStatsEvent F) :=
  let key := ⟨downstreamId, channelId, channelKind⟩
  let closed := (r.sessions.lookup key).isSome
  (⟨r.sessions.modify key fun stats => stats.close now⟩,
    if closed then [.channelClosed downstreamId channelId channelKind.asStr now] else [])

/-- Whether a record is an open one of a downstream. -/
def isOpenOf (downstreamId : DownstreamId) (key : MinerSessionKey)
    (stats : MinerSessionStats F) : Bool :=
  key.downstreamId == downstreamId && stats.closedAt.isNone

/-- `record_downstream_closed`. -/
def recordDownstreamClosed (r : MinerStatsRegistry F) (now : UInt64)
    (downstreamId : DownstreamId) : MinerStatsRegistry F × List (MinerStatsEvent F) :=
  let closed := r.sessions.entries.any fun e => isOpenOf downstreamId e.1 e.2
  (⟨r.sessions.mapVals fun key stats =>
      if isOpenOf downstreamId key stats then stats.close now else stats⟩,
    if closed then [.downstreamClosed downstreamId now] else [])

/-- One entry of `snapshots`. -/
def snapshotOf (key : MinerSessionKey) (stats : MinerSessionStats F) : MinerSessionSnapshot F :=
  { downstreamId := key.downstreamId
    channelId := key.channelId
    channelKind := key.channelKind.asStr
    userIdentity := stats.userIdentity
    openedAt := stats.openedAt
    closedAt := stats.closedAt
    lastSeenAt := stats.lastSeenAt
    nominalHashrate := stats.nominalHashrate
    sharesAccepted := stats.sharesAccepted
    bestDiff := stats.bestDiff
    blocksFound := stats.blocksFound
    sharesRejected := stats.sharesRejected
    sharesRejectedByReason := stats.sharesRejectedByReason }

/-- `snapshots`: records closed for too long are dropped, the others listed. -/
def snapshots (r : MinerStatsRegistry F) (now : UInt64)
    (order : IterOrder (MinerSessionSnapshot F)) :
    MinerStatsRegistry F × List (MinerSessionSnapshot F) :=
  let sessions := r.sessions.retain fun _ stats => stats.retained now
  (⟨sessions⟩, order.order (sessions.entries.map fun e => snapshotOf e.1 e.2))

/-- The snapshots are those of the records that are kept. -/
theorem mem_snapshots {r : MinerStatsRegistry F} {now : UInt64}
    {order : IterOrder (MinerSessionSnapshot F)} {stat : MinerSessionSnapshot F} :
    stat ∈ (r.snapshots now order).2 ↔ ∃ key stats, r.sessions.lookup key = some stats ∧
      stats.retained now = true ∧ stat = snapshotOf key stats := by
  simp only [snapshots, IterOrder.mem_order, List.mem_map]
  constructor
  · rintro ⟨⟨key, stats⟩, he, rfl⟩
    rw [← AssocMap.lookup_eq_some, AssocMap.lookup_retain, Option.filter_eq_some_iff] at he
    exact ⟨key, stats, he.1, he.2, rfl⟩
  · rintro ⟨key, stats, hstats, hretained, rfl⟩
    refine ⟨⟨key, stats⟩, ?_, rfl⟩
    rw [← AssocMap.lookup_eq_some, AssocMap.lookup_retain, Option.filter_eq_some_iff]
    exact ⟨hstats, hretained⟩

/-- `forget_closed_sessions_for_user`, which nothing in the repository calls. -/
def forgetClosedSessionsForUser (r : MinerStatsRegistry F) (userIdentity : Text) :
    MinerStatsRegistry F :=
  ⟨r.sessions.retain fun _ stats =>
    decide (stats.userIdentity ≠ userIdentity) || stats.closedAt.isNone⟩

/-! ## The open sessions -/

/-- The record of a key whose channel is open. -/
def openSession (r : MinerStatsRegistry F) (key : MinerSessionKey) :
    Option (MinerSessionStats F) :=
  (r.sessions.lookup key).filter fun stats => stats.closedAt.isNone

theorem openSession_eq_some {r : MinerStatsRegistry F} {key : MinerSessionKey}
    {stats : MinerSessionStats F} :
    r.openSession key = some stats ↔
      r.sessions.lookup key = some stats ∧ stats.closedAt = none := by
  simp [openSession, Option.filter_eq_some_iff]

@[simp] theorem openSession_new (key : MinerSessionKey) :
    (new : MinerStatsRegistry F).openSession key = none := rfl

/-- A change of one record that does not close it changes the open session. -/
theorem openSession_modify (sessions : AssocMap MinerSessionKey (MinerSessionStats F))
    (key key' : MinerSessionKey) {f : MinerSessionStats F → MinerSessionStats F}
    (hf : ∀ stats, (f stats).closedAt = stats.closedAt) :
    openSession ⟨sessions.modify key f⟩ key' =
      (openSession ⟨sessions⟩ key').map fun stats => if key' = key then f stats else stats := by
  simp only [openSession, AssocMap.lookup_modify]
  cases sessions.lookup key' with
  | none => rfl
  | some stats =>
    by_cases hkey : key' = key
    · by_cases hc : stats.closedAt = none <;> simp [hkey, hf, hc, Option.filter]
    · by_cases hc : stats.closedAt = none <;> simp [hkey, hc, Option.filter]

section Calls

variable (r : MinerStatsRegistry F) (now : UInt64) (d : DownstreamId) (c : ChannelId)
  (kind : MinerChannelKind) (key : MinerSessionKey)

theorem openSession_recordChannelOpened [Double F] (u : Text) (hash : F) :
    (r.recordChannelOpened now d c kind u hash).1.openSession key =
      if key = ⟨d, c, kind⟩ then
        some ⟨u, now, none, now, hash, 0, Double.zero, 0, 0, ∅⟩
      else r.openSession key := by
  simp only [openSession, recordChannelOpened, AssocMap.lookup_insert_if]
  split
  · rfl
  · rfl

theorem openSession_recordShareSeen :
    (r.recordShareSeen now d c kind).openSession key = (r.openSession key).map fun stats =>
      if key = ⟨d, c, kind⟩ then { stats with lastSeenAt := now } else stats :=
  openSession_modify _ _ _ fun _ => rfl

theorem openSession_recordShareRejected (reason : Text) :
    (r.recordShareRejected now d c kind reason).1.openSession key =
      (r.openSession key).map fun stats =>
        if key = ⟨d, c, kind⟩ then stats.reject now reason else stats :=
  openSession_modify _ _ _ fun _ => rfl

theorem openSession_recordShareAccepted (accepted : UInt64) (diff : F) (blocks : UInt64) :
    (r.recordShareAccepted now d c kind accepted diff blocks).1.openSession key =
      (r.openSession key).map fun stats => if key = ⟨d, c, kind⟩ then
        { stats with
          lastSeenAt := now
          sharesAccepted := accepted
          bestDiff := diff
          blocksFound := blocks }
      else stats :=
  openSession_modify _ _ _ fun _ => rfl

theorem openSession_recordChannelClosed :
    (r.recordChannelClosed now d c kind).1.openSession key =
      if key = ⟨d, c, kind⟩ then none else r.openSession key := by
  simp only [openSession, recordChannelClosed, AssocMap.lookup_modify]
  by_cases hkey : key = ⟨d, c, kind⟩
  · rw [if_pos hkey]
    cases r.sessions.lookup key <;> simp [hkey, MinerSessionStats.close]
  · cases r.sessions.lookup key <;> simp [hkey]

theorem openSession_recordDownstreamClosed :
    (r.recordDownstreamClosed now d).1.openSession key =
      if key.downstreamId = d then none else r.openSession key := by
  simp only [openSession, recordDownstreamClosed, AssocMap.lookup_mapVals]
  cases r.sessions.lookup key with
  | none => simp
  | some stats =>
    by_cases hd : key.downstreamId = d
    · by_cases hc : stats.closedAt = none <;>
        simp [isOpenOf, hd, hc, MinerSessionStats.close, Option.filter]
    · simp [isOpenOf, hd]

/-- A poll drops no open session. -/
theorem openSession_snapshots (order : IterOrder (MinerSessionSnapshot F)) :
    (r.snapshots now order).1.openSession key = r.openSession key := by
  simp only [openSession, snapshots, AssocMap.lookup_retain]
  cases r.sessions.lookup key with
  | none => rfl
  | some stats =>
    by_cases hc : stats.closedAt = none
    · simp [MinerSessionStats.retained, hc, Option.filter]
    · by_cases hr : stats.retained now <;> simp [hc, hr, Option.filter]

/-- A rejected share is reported exactly if there is a record, as long as its count
does not wrap. -/
theorem recordShareRejected_events (reason : Text)
    (hcount : ∀ stats, r.sessions.lookup ⟨d, c, kind⟩ = some stats →
      stats.sharesRejected.toNat + 1 < 2 ^ 63) :
    r.sessions.lookup ⟨d, c, kind⟩ = none ∧ (r.recordShareRejected now d c kind reason).2 = [] ∨
      ∃ stats, r.sessions.lookup ⟨d, c, kind⟩ = some stats ∧
        (r.recordShareRejected now d c kind reason).2 =
          [.shareRejected d c kind.asStr reason (stats.sharesRejected + 1) now] := by
  cases hl : r.sessions.lookup ⟨d, c, kind⟩ with
  | none => exact .inl ⟨rfl, by simp [recordShareRejected, hl]⟩
  | some stats =>
    have hpos : 0 < stats.sharesRejected + 1 := by
      have hlt := hcount stats hl
      rw [UInt64.lt_iff_toNat_lt, UInt64.toNat_add]
      simp only [UInt64.toNat_zero, UInt64.toNat_one]
      omega
    exact .inr ⟨stats, rfl, by simp [recordShareRejected, hl, hpos]⟩

/-- The registry tells the history of a closed downstream exactly if it had an
open session. -/
theorem recordDownstreamClosed_events :
    (r.recordDownstreamClosed now d).2 = [] ∧
        (∀ key : MinerSessionKey, key.downstreamId = d → r.openSession key = none) ∨
      (r.recordDownstreamClosed now d).2 = [.downstreamClosed d now] := by
  simp only [recordDownstreamClosed]
  split
  · exact .inr rfl
  · rename_i hnone
    refine .inl ⟨rfl, fun key hkey => ?_⟩
    rw [Option.eq_none_iff_forall_ne_some]
    intro stats hstats
    rw [openSession_eq_some, AssocMap.lookup_eq_some] at hstats
    refine hnone (List.any_eq_true.2 ⟨_, hstats.1, ?_⟩)
    simp [isOpenOf, hkey, hstats.2]

end Calls

end MinerStatsRegistry

end CanaryMining
