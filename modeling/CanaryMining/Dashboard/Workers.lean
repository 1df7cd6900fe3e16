import CanaryMining.Dashboard.Rows
import CanaryMining.History.Table
import Mathlib.Data.UInt

/-!
# The workers of the dashboard

`build_miner_workers` joins three sources: the miner rows, the snapshots of the
registry, and the miners of the history.  Each row becomes a session, with the
snapshot of its channel if there is one; the snapshots left over become sessions
of their own, and so do the known miners that no session is about yet.  The
sessions of one worker id form a worker.

Where a worker can come from is said once, by `keyed_collectWorkers`.

## Main definitions

* `MinerSession`, `MinerWorker` — what the dashboard shows.
* `minerSessionFromRow`, `minerSessionFromStat`, `minerSessionFromKnownMiner`.
* `pushWorkerSession`, `finalizeWorker` — the worker a session goes to, and its totals.
* `buildMinerWorkers` — the function of the source.
-/

namespace CanaryMining

variable {Addr F : Type}

/-- `MinerSession`. -/
structure MinerSession (F : Type) where
  sessionId : Text
  clientId : DownstreamId
  channelId : ChannelId
  channelKind : Text
  hashrate : F
  poolDiff : Option F
  bestDiff : F
  sharesAccepted : UInt64
  sharesRejected : UInt64
  rejectionPercent : F
  openedAt : Option UInt64
  closedAt : Option UInt64
  lastSeenAt : Option UInt64
  uptimeSeconds : Option UInt64
  lastSeenSeconds : Option UInt64
  connected : Bool

/-- The values of `connection_state`. -/
inductive ConnectionState
  | online
  | recentlySeen
  | offline
  deriving DecidableEq, Repr

/-- `MinerWorker`. -/
structure MinerWorker (F : Type) where
  workerId : Text
  label : Text
  payoutAddress : Text
  userIdentity : Text
  sessionCount : ℕ
  totalHashrate : F
  poolDiff : Option F
  bestDiff : F
  totalShares : UInt64
  totalRejected : UInt64
  rejectionPercent : F
  openedAt : Option UInt64
  closedAt : Option UInt64
  lastSeenAt : Option UInt64
  uptimeSeconds : Option UInt64
  lastSeenSeconds : Option UInt64
  connected : Bool
  activeOnTemplate : Bool
  connectionState : ConnectionState
  sessions : List (MinerSession F)

/-- `ACTIVE_MINER_GRACE_SECONDS`. -/
def activeMinerGraceSeconds : UInt64 := 120

/-! ## Sessions -/

/-- `session_uptime_seconds`. -/
def sessionUptimeSeconds (stat : MinerSessionSnapshot F) (now : UInt64) : UInt64 :=
  satSub (stat.closedAt.getD now) stat.openedAt

/-- The text of a session id. -/
def sessionIdText (clientId : DownstreamId) (channelKind : Text) (channelId : ChannelId) : Text :=
  Nat.toDigits 10 clientId ++ ':' :: channelKind ++ ':' :: Nat.toDigits 10 channelId.toNat

section Sessions

variable [Double F]

/-- `rejection_percent`. -/
def rejectionPercent (sharesAccepted sharesRejected : UInt64) : F :=
  let total := sharesAccepted + sharesRejected
  if total = 0 then Double.zero
  else Double.mul
    (Double.div (Double.ofRat sharesRejected.toNat) (Double.ofRat total.toNat)) (Double.ofRat 100)

/-- `miner_session_from_row`. -/
def minerSessionFromRow (miner : MinerRow F) (stat : Option (MinerSessionSnapshot F))
    (now : UInt64) : MinerSession F :=
  let sharesRejected := (stat.map (·.sharesRejected)).getD 0
  let lastSeenAt := (stat.map (·.lastSeenAt)).or miner.lastSeenAt
  { sessionId := sessionIdText miner.clientId miner.channelKind miner.channelId
    clientId := miner.clientId
    channelId := miner.channelId
    channelKind := miner.channelKind
    hashrate := if miner.connected then miner.nominalHashrate else Double.zero
    poolDiff := miner.poolDiff
    bestDiff := miner.bestDiff
    sharesAccepted := miner.sharesAccepted
    sharesRejected := sharesRejected
    rejectionPercent := rejectionPercent miner.sharesAccepted sharesRejected
    openedAt := stat.map (·.openedAt)
    closedAt := stat.bind (·.closedAt)
    lastSeenAt := lastSeenAt
    uptimeSeconds := stat.map fun stat => sessionUptimeSeconds stat now
    lastSeenSeconds := lastSeenAt.map (satSub now)
    connected := miner.connected }

/-- `miner_session_from_stat`. -/
def minerSessionFromStat (stat : MinerSessionSnapshot F) (now : UInt64) : MinerSession F :=
  { sessionId := sessionIdText stat.downstreamId stat.channelKind stat.channelId
    clientId := stat.downstreamId
    channelId := stat.channelId
    channelKind := stat.channelKind
    hashrate := if stat.closedAt.isNone then stat.nominalHashrate else Double.zero
    poolDiff := none
    bestDiff := stat.bestDiff
    sharesAccepted := stat.sharesAccepted
    sharesRejected := stat.sharesRejected
    rejectionPercent := rejectionPercent stat.sharesAccepted stat.sharesRejected
    openedAt := some stat.openedAt
    closedAt := stat.closedAt
    lastSeenAt := some stat.lastSeenAt
    uptimeSeconds := some (sessionUptimeSeconds stat now)
    lastSeenSeconds := some (satSub now stat.lastSeenAt)
    connected := stat.closedAt.isNone }

/-- `miner_session_from_known_miner`. -/
def minerSessionFromKnownMiner (miner : KnownMiner F) (now : UInt64) : MinerSession F :=
  { sessionId := miner.minerId
    clientId := 0
    channelId := 0
    channelKind := "last".toList
    hashrate := if miner.connected then miner.nominalHashrate else Double.zero
    poolDiff := none
    bestDiff := miner.bestDiff
    sharesAccepted := miner.sharesAccepted
    sharesRejected := miner.sharesRejected
    rejectionPercent := rejectionPercent miner.sharesAccepted miner.sharesRejected
    openedAt := miner.openedAt
    closedAt := miner.closedAt
    lastSeenAt := some miner.lastSeenAt
    uptimeSeconds :=
      if miner.connected then miner.openedAt.map (satSub now) else miner.uptimeSeconds
    lastSeenSeconds := some (satSub now miner.lastSeenAt)
    connected := miner.connected }

end Sessions

/-! ## Workers -/

section Workers

variable [Double F]

/-- The worker a first session is put into. -/
def MinerWorker.empty (workerId label payoutAddress userIdentity : Text) : MinerWorker F :=
  { workerId := workerId
    label := label
    payoutAddress := payoutAddress
    userIdentity := userIdentity
    sessionCount := 0
    totalHashrate := Double.zero
    poolDiff := none
    bestDiff := Double.zero
    totalShares := 0
    totalRejected := 0
    rejectionPercent := Double.zero
    openedAt := none
    closedAt := none
    lastSeenAt := none
    uptimeSeconds := none
    lastSeenSeconds := none
    connected := false
    activeOnTemplate := false
    connectionState := .offline
    sessions := [] }

/-- The workers so far, by id. -/
abbrev WorkerMap (F : Type) := AssocMap Text (MinerWorker F)

/-- `push_worker_session`. -/
def pushWorkerSession (lib : AddressLib Addr) (workers : WorkerMap F) (network : Network)
    (userIdentity : Text) (session : MinerSession F) : WorkerMap F :=
  let display := displayIdentity lib network userIdentity
  let workerId := minerRowId network userIdentity display.1 display.2
  let worker := (workers.lookup workerId).getD (.empty workerId display.1 display.2 userIdentity)
  workers.insert workerId { worker with sessions := worker.sessions ++ [session] }

/-- `common_pool_diff`. -/
def commonPoolDiff (sessions : List (MinerSession F)) : Option F :=
  match (sessions.filter (·.connected)).filterMap (·.poolDiff) with
  | [] => none
  | first :: activeDiffs =>
    let tolerance :=
      Double.mul (Double.max (Double.abs first) (Double.ofRat 1)) (Double.ofRat (1 / 1000000))
    if activeDiffs.all fun value => Double.le (Double.abs (Double.sub value first)) tolerance then
      some first
    else none

omit [Double F] in
/-- The order of a worker's sessions: connected ones first, then by channel. -/
def compareSessions (left right : MinerSession F) : Ordering :=
  (compare right.connected left.connected).then <|
    (compare left.clientId right.clientId).then <| compare left.channelId right.channelId

/-- `finalize_worker`.  `max_by_key` takes the last session where the uptimes tie, and
`min_by_key` the first. -/
def finalizeWorker (worker : MinerWorker F) : MinerWorker F :=
  let sessions := worker.sessions.mergeSort fun left right => (compareSessions left right).isLE
  let connected := sessions.any (·.connected)
  let totalShares := (sessions.map (·.sharesAccepted)).sum
  let totalRejected := (sessions.map (·.sharesRejected)).sum
  let connectedSessions := sessions.filter (·.connected)
  let displaySessions := if connectedSessions.isEmpty then sessions else connectedSessions
  let uptimeSession :=
    (displaySessions.filter (·.uptimeSeconds.isSome)).reverse.maxOn? (·.uptimeSeconds.getD 0)
  let lastSeenSession :=
    (displaySessions.filter (·.lastSeenSeconds.isSome)).minOn? (·.lastSeenSeconds.getD 0)
  let lastSeenSeconds := lastSeenSession.bind (·.lastSeenSeconds)
  let activeOnTemplate := connected || lastSeenSeconds.any (· ≤ activeMinerGraceSeconds)
  { worker with
    sessions := sessions
    sessionCount := sessions.length
    connected := connected
    totalHashrate := Double.sum (connectedSessions.map (·.hashrate))
    bestDiff := (sessions.map (·.bestDiff)).foldl Double.max Double.zero
    totalShares := totalShares
    totalRejected := totalRejected
    rejectionPercent := rejectionPercent totalShares totalRejected
    openedAt := uptimeSession.bind (·.openedAt)
    closedAt := uptimeSession.bind (·.closedAt)
    uptimeSeconds := uptimeSession.bind (·.uptimeSeconds)
    lastSeenAt := lastSeenSession.bind (·.lastSeenAt)
    lastSeenSeconds := lastSeenSeconds
    poolDiff := commonPoolDiff sessions
    activeOnTemplate := activeOnTemplate
    connectionState :=
      if connected then .online else if activeOnTemplate then .recentlySeen else .offline }

omit [Double F] in
/-- The order of the workers: active ones first, then connected ones, then by the time
since they were last seen, by label and by address. -/
def compareWorkers (left right : MinerWorker F) : Ordering :=
  (compare right.activeOnTemplate left.activeOnTemplate).then <|
    (compare right.connected left.connected).then <|
      (compare (left.lastSeenSeconds.getD (.ofNat (2 ^ 64 - 1)))
        (right.lastSeenSeconds.getD (.ofNat (2 ^ 64 - 1)))).then <|
        (compare left.label right.label).then <|
          compare left.payoutAddress right.payoutAddress

/-! ## The three sources -/

/-- The key rows and snapshots are joined by. -/
abbrev ChannelKey := DownstreamId × ChannelId × Text

omit [Double F] in
/-- The key of a row. -/
def MinerRow.key (miner : MinerRow F) : ChannelKey :=
  (miner.clientId, miner.channelId, miner.channelKind)

omit [Double F] in
/-- The key of a snapshot. -/
def MinerSessionSnapshot.key (stat : MinerSessionSnapshot F) : ChannelKey :=
  (stat.downstreamId, stat.channelId, stat.channelKind)

/-- The snapshots not joined to a row yet. -/
abbrev StatsByChannel (F : Type) := AssocMap ChannelKey (MinerSessionSnapshot F)

variable (lib : AddressLib Addr) (network : Network) (now : UInt64)

/-- The turn of the first loop for a row. -/
def pushRow (acc : StatsByChannel F × WorkerMap F) (miner : MinerRow F) :
    StatsByChannel F × WorkerMap F :=
  (acc.1.erase miner.key, pushWorkerSession lib acc.2 network miner.userIdentity
    (minerSessionFromRow miner (acc.1.lookup miner.key) now))

/-- The turn of the second loop for a snapshot no row took. -/
def pushStat (workers : WorkerMap F) (stat : MinerSessionSnapshot F) : WorkerMap F :=
  pushWorkerSession lib workers network stat.userIdentity (minerSessionFromStat stat now)

/-- The turn of the third loop for a known miner. -/
def pushKnownMiner (workers : WorkerMap F) (miner : KnownMiner F) : WorkerMap F :=
  if (workers.lookup miner.minerId).isSome then workers
  else pushWorkerSession lib workers network miner.userIdentity
    (minerSessionFromKnownMiner miner now)

omit [Double F] in
/-- The snapshots by channel, the last one where several have the same key. -/
def statsByChannel (stats : List (MinerSessionSnapshot F)) : StatsByChannel F :=
  stats.foldl (fun m stat => m.insert stat.key stat) ∅

/-- The workers before they are finalized.  `order` is the order in which the snapshots
left over come out of their map. -/
def collectWorkers (currentMiners : Option (List (MinerRow F)))
    (stats : List (MinerSessionSnapshot F)) (knownMiners : List (KnownMiner F))
    (order : IterOrder (MinerSessionSnapshot F)) : WorkerMap F :=
  let afterRows := (currentMiners.getD []).foldl (pushRow lib network now) (statsByChannel stats, ∅)
  let afterStats := (order.order afterRows.1.values).foldl (pushStat lib network now) afterRows.2
  knownMiners.foldl (pushKnownMiner lib network now) afterStats

/-- `build_miner_workers`.  `workerOrder` is the order in which the workers come out of
their map. -/
def buildMinerWorkers (currentMiners : Option (List (MinerRow F)))
    (stats : List (MinerSessionSnapshot F)) (knownMiners : List (KnownMiner F))
    (order : IterOrder (MinerSessionSnapshot F)) (workerOrder : IterOrder (MinerWorker F)) :
    List (MinerWorker F) :=
  let workers := collectWorkers lib network now currentMiners stats knownMiners order
  ((workerOrder.order workers.values).map finalizeWorker).mergeSort fun left right =>
    (compareWorkers left right).isLE

/-! ## Where a worker comes from -/

section Sources

variable {lib network now}

/-- The worker a session was pushed into, all others unchanged. -/
theorem lookup_pushWorkerSession (workers : WorkerMap F) (userIdentity : Text)
    (session : MinerSession F) (id : Text) :
    (pushWorkerSession lib workers network userIdentity session).lookup id =
      if id = workerIdOf lib network userIdentity then
        let worker := (workers.lookup (workerIdOf lib network userIdentity)).getD
          (.empty (workerIdOf lib network userIdentity)
            (displayIdentity lib network userIdentity).1
            (displayIdentity lib network userIdentity).2 userIdentity)
        some { worker with sessions := worker.sessions ++ [session] }
      else workers.lookup id :=
  AssocMap.lookup_insert_if _ _ _ _

omit [Double F] in
/-- Every worker is stored under its id, which satisfies `P`. -/
def WorkerMap.Keyed (P : Text → Prop) (workers : WorkerMap F) : Prop :=
  ∀ id worker, workers.lookup id = some worker → worker.workerId = id ∧ P id

variable {P : Text → Prop}

omit [Double F] in
theorem WorkerMap.keyed_empty : WorkerMap.Keyed (F := F) P ∅ := by
  intro id worker hworker
  cases hworker

theorem WorkerMap.Keyed.push {workers : WorkerMap F} (h : workers.Keyed P) {userIdentity : Text}
    (hP : P (workerIdOf lib network userIdentity)) (session : MinerSession F) :
    WorkerMap.Keyed P (pushWorkerSession lib workers network userIdentity session) := by
  intro id worker hworker
  rw [lookup_pushWorkerSession] at hworker
  by_cases hid : id = workerIdOf lib network userIdentity
  · rw [if_pos hid, Option.some.injEq] at hworker
    rw [← hworker, hid]
    refine ⟨?_, hP⟩
    cases hl : workers.lookup (workerIdOf lib network userIdentity) with
    | none => rfl
    | some old => exact (h _ old hl).1
  · rw [if_neg hid] at hworker
    exact h id worker hworker

/-- What the first loop leaves: workers of rows, and snapshots that were there before. -/
theorem keyed_foldl_pushRow (now : UInt64) {rows : List (MinerRow F)}
    (acc : StatsByChannel F × WorkerMap F)
    (hrows : ∀ miner ∈ rows, P (workerIdOf lib network miner.userIdentity))
    (hworkers : acc.2.Keyed P)
    (hleft : ∀ key stat, acc.1.lookup key = some stat →
      P (workerIdOf lib network stat.userIdentity)) :
    WorkerMap.Keyed P (rows.foldl (pushRow lib network now) acc).2 ∧
      ∀ key stat, (rows.foldl (pushRow lib network now) acc).1.lookup key = some stat →
        P (workerIdOf lib network stat.userIdentity) := by
  refine List.foldlRecOn rows (pushRow lib network now) (motive := fun acc => acc.2.Keyed P ∧
    ∀ key stat, acc.1.lookup key = some stat → P (workerIdOf lib network stat.userIdentity))
    ⟨hworkers, hleft⟩ fun acc hacc miner hminer => ?_
  constructor
  · simp only [pushRow]
    exact hacc.1.push (hrows miner hminer) _
  · intro key stat hstat
    simp only [pushRow, AssocMap.lookup_erase_if] at hstat
    by_cases hkey : key = miner.key
    · rw [if_pos hkey] at hstat
      cases hstat
    · rw [if_neg hkey] at hstat
      exact hacc.2 key stat hstat

/-- **Where a worker comes from.**  What the worker id of every row, snapshot and known
miner satisfies, the id of every worker satisfies. -/
theorem keyed_collectWorkers {currentMiners : Option (List (MinerRow F))}
    {stats : List (MinerSessionSnapshot F)} {knownMiners : List (KnownMiner F)}
    {order : IterOrder (MinerSessionSnapshot F)}
    (hrows : ∀ miner ∈ currentMiners.getD [], P (workerIdOf lib network miner.userIdentity))
    (hstats : ∀ stat ∈ stats, P (workerIdOf lib network stat.userIdentity))
    (hknown : ∀ miner ∈ knownMiners, P (workerIdOf lib network miner.userIdentity)) :
    WorkerMap.Keyed P (collectWorkers lib network now currentMiners stats knownMiners order) := by
  have hleft : ∀ key stat, (statsByChannel stats).lookup key = some stat →
      P (workerIdOf lib network stat.userIdentity) :=
    AssocMap.forall_foldl_insert MinerSessionSnapshot.key id nofun hstats
  have hafterRows := keyed_foldl_pushRow now (statsByChannel stats, ∅) hrows WorkerMap.keyed_empty
    hleft
  refine List.foldlRecOn _ _ (List.foldlRecOn _ _ hafterRows.1 ?_) ?_
  · intro workers hworkers stat hstat
    rw [IterOrder.mem_order, AssocMap.mem_values] at hstat
    obtain ⟨key, hkey⟩ := hstat
    exact hworkers.push (hafterRows.2 key stat hkey) _
  · intro workers hworkers miner hminer
    unfold pushKnownMiner
    split
    · exact hworkers
    · exact hworkers.push (hknown miner hminer) _

variable {currentMiners : Option (List (MinerRow F))} {stats : List (MinerSessionSnapshot F)}
  {knownMiners : List (KnownMiner F)} {order : IterOrder (MinerSessionSnapshot F)}
  {workerOrder : IterOrder (MinerWorker F)}

/-- The workers shown are those that were collected. -/
theorem exists_worker_iff {id : Text} :
    (∃ worker ∈ buildMinerWorkers lib network now currentMiners stats knownMiners order
      workerOrder, worker.workerId = id) ↔
    ((collectWorkers lib network now currentMiners stats knownMiners order).lookup id).isSome := by
  have hkeyed : WorkerMap.Keyed (fun _ => True)
      (collectWorkers lib network now currentMiners stats knownMiners order) :=
    keyed_collectWorkers (fun _ _ => trivial) (fun _ _ => trivial) fun _ _ => trivial
  simp only [buildMinerWorkers, List.mem_mergeSort, List.mem_map, IterOrder.mem_order,
    AssocMap.mem_values]
  constructor
  · rintro ⟨_, ⟨worker, ⟨key, hkey⟩, rfl⟩, rfl⟩
    have hid : worker.workerId = key := (hkeyed key worker hkey).1
    change ((collectWorkers lib network now currentMiners stats knownMiners order).lookup
      worker.workerId).isSome
    rw [hid, hkey]
    rfl
  · intro h
    obtain ⟨worker, hworker⟩ := Option.isSome_iff_exists.1 h
    exact ⟨finalizeWorker worker, ⟨worker, ⟨id, hworker⟩, rfl⟩, (hkeyed id worker hworker).1⟩

theorem forall_workerId_buildMinerWorkers
    (hrows : ∀ miner ∈ currentMiners.getD [], P (workerIdOf lib network miner.userIdentity))
    (hstats : ∀ stat ∈ stats, P (workerIdOf lib network stat.userIdentity))
    (hknown : ∀ miner ∈ knownMiners, P (workerIdOf lib network miner.userIdentity)) :
    ∀ worker ∈ buildMinerWorkers lib network now currentMiners stats knownMiners order
      workerOrder, P worker.workerId := by
  intro worker hworker
  have hsome := exists_worker_iff.1 ⟨worker, hworker, rfl⟩
  obtain ⟨collected, hcollected⟩ := Option.isSome_iff_exists.1 hsome
  exact (keyed_collectWorkers hrows hstats hknown _ collected hcollected).2

end Sources

end Workers

end CanaryMining
