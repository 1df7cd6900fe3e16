import CanaryMining.Dashboard.Sources

/-!
# Aggregation

The workers of the dashboard neither lose a session nor count one twice: their sessions
are one for each row, one for each snapshot of another channel, and one for each known
miner that is not the worker of one of these.

## Main definitions

* `WorkerTotals` — the totals of a worker are those of its sessions.
* `Conserved` — the sessions of all workers, given the worker ids that hide a known miner.
* `conserved_buildMinerWorkers` — the workers are conserved.
-/

namespace CanaryMining

variable {Addr F : Type} [Double F] (lib : AddressLib Addr) (network : Network) (now : UInt64)

/-- The totals of a worker are the sums over its sessions, as far as counters do not wrap
and hashrates are added without rounding. -/
structure WorkerTotals (worker : MinerWorker F) : Prop where
  sessionCount : worker.sessionCount = worker.sessions.length
  totalShares : (worker.sessions.map (·.sharesAccepted.toNat)).sum < 2 ^ 64 →
    worker.totalShares.toNat = (worker.sessions.map (·.sharesAccepted.toNat)).sum
  totalRejected : (worker.sessions.map (·.sharesRejected.toNat)).sum < 2 ^ 64 →
    worker.totalRejected.toNat = (worker.sessions.map (·.sharesRejected.toNat)).sum
  totalHashrate : Double.Exact F → ∀ rate : MinerSession F → ℚ,
    (∀ session ∈ worker.sessions, session.hashrate = Double.ofRat (rate session)) →
      worker.totalHashrate = Double.ofRat ((worker.sessions.filter (·.connected)).map rate).sum

omit [Double F] in
/-- The ids of the workers of rows and of snapshots. -/
def liveWorkerIds (rows : List (MinerRow F)) (stats : List (MinerSessionSnapshot F)) :
    List Text :=
  rows.map (fun miner => workerIdOf lib network miner.userIdentity) ++
    stats.map fun stat => workerIdOf lib network stat.userIdentity

omit [Double F] in
/-- The snapshots of channels that have no row. -/
def unjoinedStats (rows : List (MinerRow F)) (stats : List (MinerSessionSnapshot F)) :
    List (MinerSessionSnapshot F) :=
  stats.filter fun stat => stat.key ∉ rows.map MinerRow.key

/-- The workers hold one session for each row, for each snapshot of another channel, and for
each known miner whose id is not one of `taken`, each in the worker of its identity. -/
structure Conserved (rows : List (MinerRow F)) (stats : List (MinerSessionSnapshot F))
    (knownMiners : List (KnownMiner F)) (taken : List Text) (workers : List (MinerWorker F)) :
    Prop where
  workerIds : (workers.map (·.workerId)).Nodup
  sessions : (workers.flatMap fun worker => worker.sessions.map (Prod.mk worker.workerId)).Perm
    (rows.map (fun miner => (workerIdOf lib network miner.userIdentity,
        minerSessionFromRow miner (stats.find? fun stat => stat.key = miner.key) now)) ++
      (unjoinedStats rows stats).map (fun stat => (workerIdOf lib network stat.userIdentity,
        minerSessionFromStat stat now)) ++
      (knownMiners.filter fun miner => miner.minerId ∉ taken).map fun miner =>
        (workerIdOf lib network miner.userIdentity, minerSessionFromKnownMiner miner now))
  totals : ∀ worker ∈ workers, WorkerTotals worker

variable {lib network now} {rows : List (MinerRow F)} {stats : List (MinerSessionSnapshot F)}
  {knownMiners : List (KnownMiner F)}

/-! ## Totals -/

/-- A sum of counters is exact as long as it does not wrap. -/
theorem toNat_sum_of_lt (l : List UInt64) (h : (l.map UInt64.toNat).sum < 2 ^ 64) :
    l.sum.toNat = (l.map UInt64.toNat).sum := by
  induction l with
  | nil => rfl
  | cons x l ih =>
    rw [List.map_cons, List.sum_cons] at h ⊢
    have hrest : (l.map UInt64.toNat).sum < 2 ^ 64 := by omega
    rw [List.sum_cons, UInt64.toNat_add, ih hrest, Nat.mod_eq_of_lt h]

theorem workerTotals_finalizeWorker (worker : MinerWorker F) :
    WorkerTotals (finalizeWorker worker) := by
  constructor
  case sessionCount => rfl
  case totalShares =>
    intro h
    have hsum := toNat_sum_of_lt ((finalizeWorker worker).sessions.map (·.sharesAccepted))
    rw [List.map_map] at hsum
    exact hsum h
  case totalRejected =>
    intro h
    have hsum := toNat_sum_of_lt ((finalizeWorker worker).sessions.map (·.sharesRejected))
    rw [List.map_map] at hsum
    exact hsum h
  case totalHashrate =>
    intro hexact rate hrate
    have hmap : ((finalizeWorker worker).sessions.filter (·.connected)).map (·.hashrate) =
        (((finalizeWorker worker).sessions.filter (·.connected)).map rate).map
          (Double.ofRat (F := F)) := by
      rw [List.map_map]
      refine List.map_congr_left fun session hsession => ?_
      exact hrate session (List.mem_of_mem_filter hsession)
    rw [← hexact.sum, ← hmap]
    rfl

/-! ## Known miners -/

/-- The canonical form of an address is not the text shown for a missing one. -/
def AddressLib.NeverDash (lib : AddressLib Addr) : Prop :=
  ∀ x a, lib.fromStr x = .ok a → lib.toText a ≠ "-".toList

/-- A miner is shown as the worker of its id. -/
theorem workerIdOf_of_minerIdFromIdentity (hdash : lib.NeverDash) {userIdentity id : Text}
    (h : minerIdFromIdentity lib network userIdentity = some id) :
    workerIdOf lib network userIdentity = id := by
  unfold minerIdFromIdentity at h
  split at h
  · cases h
  · rename_i identity hparse
    obtain ⟨⟨x, a, ha, haddress⟩, -⟩ := parseMinerIdentity_eq_ok hparse
    have hne : identity.payoutAddress ≠ "-".toList := haddress ▸ hdash x a ha
    rw [workerIdOf, displayIdentity, hparse]
    simp only [minerRowId, if_pos hne]
    exact Option.some.inj h

omit [Double F] in
/-- Miners that are shown under their own, different ids do not hide each other. -/
theorem shownMiners_eq_filter {ids : List Text}
    (hknown : (knownMiners.map (·.minerId)).Nodup)
    (hids : ∀ miner ∈ knownMiners, miner.minerId ∉ ids →
      workerIdOf lib network miner.userIdentity = miner.minerId) :
    shownMiners lib network ids knownMiners =
      knownMiners.filter fun miner => miner.minerId ∉ ids := by
  induction knownMiners generalizing ids with
  | nil => rfl
  | cons miner miners ih =>
    rw [List.map_cons, List.nodup_cons] at hknown
    have hids' : ∀ other ∈ miners, other.minerId ∉ ids →
        workerIdOf lib network other.userIdentity = other.minerId := fun other hother =>
      hids other (List.mem_cons_of_mem _ hother)
    rw [shownMiners, List.filter_cons]
    by_cases hmem : miner.minerId ∈ ids
    · rw [if_pos hmem, if_neg (by simpa using hmem)]
      exact ih hknown.2 hids'
    · rw [if_neg hmem, if_pos (by simpa using hmem), hids miner List.mem_cons_self hmem,
        ih hknown.2 fun other hother hnot => hids' other hother fun hother' =>
          hnot (List.mem_cons_of_mem _ hother')]
      congr 1
      refine List.filter_congr fun other hother => ?_
      have hne : other.minerId ≠ miner.minerId := by
        intro heq
        exact hknown.1 (heq ▸ List.mem_map_of_mem hother)
      simp [hne]

omit [Double F] in
/-- The snapshot of a channel, looked up or searched for. -/
theorem lookup_statsByChannel_eq_find? (hstats : (stats.map MinerSessionSnapshot.key).Nodup)
    (key : ChannelKey) :
    (statsByChannel stats).lookup key = stats.find? fun stat => stat.key = key := by
  cases hfind : stats.find? fun stat => stat.key = key with
  | none =>
    rw [List.find?_eq_none] at hfind
    rw [Option.eq_none_iff_forall_ne_some]
    intro stat hstat
    obtain ⟨hmem, hkey⟩ := (lookup_statsByChannel hstats).1 hstat
    exact hfind stat hmem (decide_eq_true hkey)
  | some stat =>
    have hkey : stat.key = key := by simpa using List.find?_some hfind
    exact (lookup_statsByChannel hstats).2 ⟨List.mem_of_find?_eq_some hfind, hkey⟩

/-! ## Conservation -/

variable {currentMiners : Option (List (MinerRow F))} {order : IterOrder (MinerSessionSnapshot F)}
  {workerOrder : IterOrder (MinerWorker F)}

/-- The worker ids of the first two loops. -/
theorem mem_liveSessions_iff {id : Text} :
    id ∈ (liveSessions now rows stats order).map (·.workerId lib network) ↔
      id ∈ liveWorkerIds lib network rows (leftStats rows stats).values := by
  have hrows : (rowSessions now rows stats).map (·.workerId lib network) =
      rows.map fun miner => workerIdOf lib network miner.userIdentity := by
    conv_rhs => rw [← joinRows_fst (statsByChannel stats) rows]
    rw [rowSessions, List.map_map, List.map_map]
    rfl
  simp only [liveSessions, liveWorkerIds, List.map_append, hrows, List.map_map, List.mem_append,
    List.mem_map, IterOrder.mem_order]
  rfl

/-- All sources.  Which known miners are skipped does not depend on the order of the
snapshots. -/
theorem sources_eq :
    sources lib network now rows stats knownMiners order =
      rowSessions now rows stats ++
        (order.order (leftStats rows stats).values).map (statSession now) ++
        (shownMiners lib network (liveWorkerIds lib network rows (leftStats rows stats).values)
          knownMiners).map (knownSession now) := by
  rw [sources, shownMiners_congr fun id => mem_liveSessions_iff, liveSessions]

theorem mem_liveSessions_workerId (hstats : (stats.map MinerSessionSnapshot.key).Nodup)
    {id : Text} :
    id ∈ (liveSessions now rows stats order).map (·.workerId lib network) ↔
      id ∈ liveWorkerIds lib network rows (unjoinedStats rows stats) := by
  have hleft : ∀ stat, stat ∈ (leftStats rows stats).values ↔ stat ∈ unjoinedStats rows stats :=
    fun stat => (values_leftStats hstats).mem_iff
  rw [mem_liveSessions_iff]
  simp only [liveWorkerIds, List.mem_append, List.mem_map, hleft]

/-- **Aggregation conserves sessions.**  With one row and one snapshot for a channel and one
known miner for an identity, the workers have different ids and hold one session for each
row, for each snapshot of another channel, and for each known miner that is not the worker
of one of these; and their totals are the sums over their sessions. -/
theorem conserved_buildMinerWorkers (hdash : lib.NeverDash)
    (hrows : ((currentMiners.getD []).map MinerRow.key).Nodup)
    (hstats : (stats.map MinerSessionSnapshot.key).Nodup)
    (hknown : (knownMiners.map (·.minerId)).Nodup)
    (hids : ∀ miner ∈ knownMiners,
      minerIdFromIdentity lib network miner.userIdentity = some miner.minerId) :
    Conserved lib network now (currentMiners.getD []) stats knownMiners
      (liveWorkerIds lib network (currentMiners.getD [])
        (unjoinedStats (currentMiners.getD []) stats))
      (buildMinerWorkers lib network now currentMiners stats knownMiners order workerOrder) := by
  constructor
  case workerIds => exact nodup_workerIds
  case totals =>
    intro worker hworker
    obtain ⟨id, first, -, rfl⟩ := mem_buildMinerWorkers.1 hworker
    exact workerTotals_finalizeWorker _
  case sessions =>
    refine sessions_buildMinerWorkers.trans ?_
    have hshown : shownMiners lib network ((liveSessions now (currentMiners.getD []) stats
          order).map (·.workerId lib network)) knownMiners =
        knownMiners.filter fun miner => miner.minerId ∉ (liveSessions now
          (currentMiners.getD []) stats order).map (·.workerId lib network) :=
      shownMiners_eq_filter hknown fun miner hminer _ =>
        workerIdOf_of_minerIdFromIdentity hdash (hids miner hminer)
    have hfilter : (knownMiners.filter fun miner => miner.minerId ∉
          (liveSessions now (currentMiners.getD []) stats order).map (·.workerId lib network)) =
        knownMiners.filter fun miner => miner.minerId ∉ liveWorkerIds lib network
          (currentMiners.getD []) (unjoinedStats (currentMiners.getD []) stats) :=
      List.filter_congr fun miner _ => by simp only [mem_liveSessions_workerId hstats]
    have hleft : (order.order (leftStats (currentMiners.getD []) stats).values).Perm
        (unjoinedStats (currentMiners.getD []) stats) :=
      (order.perm _).trans (values_leftStats hstats)
    simp only [sources, liveSessions, rowSessions, joinRows_eq hrows, List.map_append,
      List.map_map, lookup_statsByChannel_eq_find? hstats] at hshown hfilter ⊢
    rw [hshown, hfilter]
    refine List.Perm.append_right _ (List.Perm.append_left _ ?_)
    exact hleft.map _

/-! ## One channel under two identities -/

/-- A row of a channel. -/
def channelRowOf (userIdentity : Text) : MinerRow ExactDouble :=
  { id := workerIdOf tableLib .regtest userIdentity
    clientId := 1
    channelId := 2
    channelKind := "standard".toList
    connected := true
    label := "default".toList
    payoutAddress := userIdentity
    userIdentity := userIdentity
    nominalHashrate := .num 5
    sharesAccepted := 3
    bestDiff := .num 0
    blocksFound := 0
    targetHex := none
    poolDiff := none
    lastSeenAt := some 10 }

/-- A snapshot of a channel of the same client. -/
def channelStatOf (userIdentity : Text) (channelId : ChannelId) (channelKind : Text)
    (closedAt : Option UInt64) : MinerSessionSnapshot ExactDouble :=
  { downstreamId := 1
    channelId := channelId
    channelKind := channelKind
    userIdentity := userIdentity
    openedAt := 5
    closedAt := closedAt
    lastSeenAt := 10
    nominalHashrate := .num 5
    sharesAccepted := 3
    bestDiff := .num 0
    blocksFound := 0
    sharesRejected := 0
    sharesRejectedByReason := ∅ }

/-- A miner of the history that is offline. -/
def knownMinerOf (minerId userIdentity : Text) : KnownMiner ExactDouble :=
  { minerId := minerId
    userIdentity := userIdentity
    payoutAddress := userIdentity
    label := "default".toList
    connected := false
    firstSeenAt := 1
    lastSeenAt := 4
    openedAt := some 1
    closedAt := some 4
    uptimeSeconds := some 3
    nominalHashrate := .num 0
    sharesAccepted := 7
    bestDiff := .num 0
    blocksFound := 0
    sharesRejected := 1 }

/-- Bob's miner in the history. -/
def knownBob : KnownMiner ExactDouble :=
  knownMinerOf (minerId .regtest bobAddress "default".toList) bobAddress

theorem tableLib_neverDash : tableLib.NeverDash := by
  intro x a _
  cases a <;> decide

/-- The workers where the row of a channel names Alice and its snapshot Bob. -/
def twoIdentitiesWorkers : List (MinerWorker ExactDouble) :=
  buildMinerWorkers tableLib .regtest 20 (some [channelRowOf aliceAddress])
    [channelStatOf bobAddress 2 "standard".toList none] [knownBob] default default

/-- Rates of rationals are added exactly. -/
theorem conserved_twoIdentities :
    Conserved tableLib .regtest 20 [channelRowOf aliceAddress]
      [channelStatOf bobAddress 2 "standard".toList none] [knownBob]
      (liveWorkerIds tableLib .regtest [channelRowOf aliceAddress]
        (unjoinedStats [channelRowOf aliceAddress]
          [channelStatOf bobAddress 2 "standard".toList none])) twoIdentitiesWorkers ∧
    ∀ worker ∈ twoIdentitiesWorkers, ∀ rate,
      (∀ session ∈ worker.sessions, session.hashrate = .num (rate session)) →
        worker.totalHashrate = .num ((worker.sessions.filter (·.connected)).map rate).sum := by
  have hrows : (((some [channelRowOf aliceAddress]).getD []).map MinerRow.key).Nodup := by decide
  have hids : ∀ miner ∈ [knownBob],
      minerIdFromIdentity tableLib .regtest miner.userIdentity = some miner.minerId := by
    intro miner hminer
    rw [List.mem_singleton.1 hminer]
    decide +kernel
  have hconserved : Conserved tableLib .regtest 20 [channelRowOf aliceAddress]
      [channelStatOf bobAddress 2 "standard".toList none] [knownBob]
      (liveWorkerIds tableLib .regtest [channelRowOf aliceAddress]
        (unjoinedStats [channelRowOf aliceAddress]
          [channelStatOf bobAddress 2 "standard".toList none])) twoIdentitiesWorkers :=
    conserved_buildMinerWorkers tableLib_neverDash hrows (by decide) (by decide) hids
  exact ⟨hconserved, fun worker hworker =>
    (hconserved.totals worker hworker).totalHashrate exact_exactDouble⟩

/-- **A joined snapshot hides no known miner.**  Bob's miner is shown although the snapshot
of the channel names him, because the worker of the channel is that of its row. -/
theorem conserved_fails_joined :
    ¬ ∀ (currentMiners : Option (List (MinerRow ExactDouble)))
      (stats : List (MinerSessionSnapshot ExactDouble))
      (knownMiners : List (KnownMiner ExactDouble)) (order : IterOrder _)
      (workerOrder : IterOrder _),
      ((currentMiners.getD []).map MinerRow.key).Nodup →
      (stats.map MinerSessionSnapshot.key).Nodup → (knownMiners.map (·.minerId)).Nodup →
      (∀ miner ∈ knownMiners,
        minerIdFromIdentity tableLib .regtest miner.userIdentity = some miner.minerId) →
      Conserved tableLib .regtest 20 (currentMiners.getD []) stats knownMiners
        (liveWorkerIds tableLib .regtest (currentMiners.getD []) stats)
        (buildMinerWorkers tableLib .regtest 20 currentMiners stats knownMiners order
          workerOrder) := by
  intro hall
  have hids : ∀ miner ∈ [knownBob],
      minerIdFromIdentity tableLib .regtest miner.userIdentity = some miner.minerId := by
    intro miner hminer
    rw [List.mem_singleton.1 hminer]
    decide +kernel
  have hclaimed := (hall (some [channelRowOf aliceAddress])
    [channelStatOf bobAddress 2 "standard".toList none] [knownBob] default default (by decide)
    (by decide) (by decide) hids).sessions
  have hlengths := (hclaimed.symm.trans sessions_buildMinerWorkers).length_eq
  revert hlengths
  decide +kernel

end CanaryMining
