import CanaryMining.Dashboard.Aggregation
import CanaryMining.Dashboard.Deletion
import CanaryMining.Dashboard.SampleLog

/-!
# Closed sessions

A session is closed when the registry says so, and connected when its source says so:
for a snapshot and a known miner these are one fact, for a row they are two.  A row kept
from an earlier sample, or a sample that is out of date, may call a channel connected that
the registry has closed.

## Main definitions

* `ClosedOffline` — no closed session is shown as connected, counted or makes a worker online.
* `ShowsClosedOffline`, `ChannelsOpen` — the property of a response, and its condition on the
  sample and the registry.
* `showsClosedOffline_iff_channelsOpen` — in every run the one holds exactly if the other does.
-/

namespace CanaryMining

variable {Addr F : Type} [Double F] (lib : AddressLib Addr)
  (targetHexToDifficulty : Text → Option F)

omit [Double F] in
/-- The channel of a session. -/
def MinerSession.key (session : MinerSession F) : ChannelKey :=
  (session.clientId, session.channelId, session.channelKind)

omit [Double F] in
/-- The snapshots have the session's channel as a closed one. -/
def closedIn (stats : List (MinerSessionSnapshot F)) (session : MinerSession F) : Bool :=
  stats.any fun stat => decide (stat.key = session.key) && stat.closedAt.isSome

/-- **Closed sessions are offline** in the workers that were built from some snapshots. -/
structure ClosedOffline (stats : List (MinerSessionSnapshot F)) (workers : List (MinerWorker F)) :
    Prop where
  connected : ∀ worker ∈ workers, ∀ session ∈ worker.sessions, session.connected = true →
    closedIn stats session = false
  closedAt : ∀ worker ∈ workers, ∀ session ∈ worker.sessions, session.connected = true →
    session.closedAt = none
  /-- The total is that of the connected sessions that are not closed. -/
  hashrate : ∀ worker ∈ workers, worker.totalHashrate = Double.sum
    ((worker.sessions.filter fun s => s.connected && !closedIn stats s).map (·.hashrate))
  online : ∀ worker ∈ workers, worker.connectionState = .online →
    ∃ session ∈ worker.sessions, session.connected = true ∧ closedIn stats session = false

/-- A response shows closed sessions as offline, by the snapshots it was built from. -/
def ShowsClosedOffline (s : DashboardState F) : DashboardAction F → Prop
  | .respond poll workers => ∀ rows stats now,
      s.polls.lookup poll = some (.counted rows stats now) → ClosedOffline stats workers
  | _ => True

omit [Double F] in
/-- No row that is marked as connected is of a channel that the registry has closed by the
time its snapshots are taken. -/
def RowsOpen (s : DashboardState F) : DashboardAction F → Prop
  | .respond poll _ => ∀ rows stats now, s.polls.lookup poll = some (.counted rows stats now) →
      ∀ row ∈ rows, row.connected = true → ∀ stat ∈ stats, stat.key = row.key →
        stat.closedAt = none
  | _ => True

/-- **The condition on a response**, by what was sampled and read before it: no channel that
the last answered sample lists last for its worker was closed in the registry, and not yet
forgotten there, when the poll took its snapshots.  That sample may be the poll's own or an
earlier one, whose rows were kept. -/
def ChannelsOpen (log : SampleLog F) (s : DashboardState F) : DashboardAction F → Prop
  | .respond poll _ => ∀ answered registry now, log.merged.lookup poll = some answered →
      log.read.lookup poll = some (registry, now) → ∀ key stats,
      ListsLast lib targetHexToDifficulty s.network answered
        (key.downstreamId, key.channelId, key.channelKind.asStr) →
      registry.sessions.lookup key = some stats → stats.retained now = true →
      stats.closedAt = none
  | _ => True

omit [Double F] in
/-- What the snapshots and the history of a running server satisfy. -/
structure SourcesValid (s : DashboardState F) : Prop where
  /-- There is one snapshot for a channel, and none for the kind of a known miner. -/
  stats : ∀ p rows stats now, s.polls.lookup p = some (.counted rows stats now) →
    (stats.map MinerSessionSnapshot.key).Nodup ∧ ∀ stat ∈ stats, stat.channelKind ≠ "last".toList
  /-- A connected row has no time at which it was closed. -/
  known : s.history.db.knownMiners.All fun row => row.connected ≠ 0 → row.closedAt = none

variable {lib targetHexToDifficulty} {network : Network} {now : UInt64}
  {rows : List (MinerRow F)} {stats : List (MinerSessionSnapshot F)}
  {knownMiners : List (KnownMiner F)} {order : IterOrder (MinerSessionSnapshot F)}
  {workerOrder : IterOrder (MinerWorker F)}

/-! ## The sessions of a response -/

omit [Double F] in
theorem closedIn_eq_false_iff {session : MinerSession F} :
    closedIn stats session = false ↔
      ∀ stat ∈ stats, stat.key = session.key → stat.closedAt = none := by
  simp only [closedIn, List.any_eq_false, Bool.and_eq_true, decide_eq_true_eq, not_and,
    Option.not_isSome_iff_eq_none]

/-- A worker is online on account of a connected session. -/
theorem exists_connected_of_online {worker : MinerWorker F}
    (h : (finalizeWorker worker).connectionState = .online) :
    ∃ session ∈ (finalizeWorker worker).sessions, session.connected = true := by
  rw [← List.any_eq_true]
  by_contra hnone
  rw [Bool.not_eq_true] at hnone
  have hstate : (finalizeWorker worker).connectionState =
      if (finalizeWorker worker).sessions.any (·.connected) then .online
      else if (finalizeWorker worker).activeOnTemplate then .recentlySeen else .offline := rfl
  rw [hstate, hnone, if_neg Bool.false_ne_true] at h
  split at h <;> cases h

/-- Where no connected row is of a closed channel, no connected session is. -/
theorem open_of_mem_sources (hstats : (stats.map MinerSessionSnapshot.key).Nodup)
    (hkinds : ∀ stat ∈ stats, stat.channelKind ≠ "last".toList)
    (hknown : ∀ miner ∈ knownMiners, miner.connected = true → miner.closedAt = none)
    (hrows : ∀ row ∈ rows, row.connected = true → ∀ stat ∈ stats, stat.key = row.key →
      stat.closedAt = none) {p : PushedSession F}
    (hp : p ∈ sources lib network now rows stats knownMiners order)
    (hconnected : p.session.connected = true) :
    closedIn stats p.session = false ∧ p.session.closedAt = none := by
  rw [closedIn_eq_false_iff]
  rcases mem_sources hp with ⟨joined, hjoined, rfl⟩ | ⟨stat, hstat, rfl⟩ | ⟨miner, hminer, rfl⟩
  · have hrow : joined.1 ∈ rows := by
      rw [← joinRows_fst (statsByChannel stats) rows]
      exact List.mem_map_of_mem hjoined
    refine ⟨hrows joined.1 hrow hconnected, ?_⟩
    have hclosed : (minerSessionFromRow joined.1 joined.2 now).closedAt =
        joined.2.bind (·.closedAt) := rfl
    rw [hclosed]
    rcases joinRows_snd hjoined with hnone | hlookup
    · rw [hnone]
      rfl
    · cases hstat : (statsByChannel stats).lookup joined.1.key with
      | none =>
        rw [hlookup, hstat]
        rfl
      | some stat =>
        obtain ⟨hmem, hkey⟩ := (lookup_statsByChannel hstats).1 hstat
        rw [hlookup, hstat]
        exact hrows joined.1 hrow hconnected stat hmem hkey
  · have hopen : stat.closedAt = none := Option.isNone_iff_eq_none.1 hconnected
    obtain ⟨key, hkey⟩ := AssocMap.mem_values.1 hstat
    have hmem := ((lookup_leftStats hstats).1 hkey).1
    refine ⟨fun other hother hsame => ?_, hopen⟩
    rw [List.inj_on_of_nodup_map hstats hother hmem hsame]
    exact hopen
  · refine ⟨fun stat hstat hkey => ?_, hknown miner hminer hconnected⟩
    have hkind : stat.channelKind = "last".toList := congrArg (·.2.2) hkey
    exact absurd hkind (hkinds stat hstat)

/-- **One response.**  Its closed sessions are offline exactly if no connected row is of a
closed channel. -/
theorem closedOffline_iff (hstats : (stats.map MinerSessionSnapshot.key).Nodup)
    (hkinds : ∀ stat ∈ stats, stat.channelKind ≠ "last".toList)
    (hknown : ∀ miner ∈ knownMiners, miner.connected = true → miner.closedAt = none) :
    ClosedOffline stats (buildMinerWorkers lib network now (some rows) stats knownMiners order
        workerOrder) ↔
      ∀ row ∈ rows, row.connected = true → ∀ stat ∈ stats, stat.key = row.key →
        stat.closedAt = none := by
  constructor
  · intro h row hrow hconnected
    rw [← joinRows_fst (statsByChannel stats) rows] at hrow
    obtain ⟨joined, hjoined, rfl⟩ := List.mem_map.1 hrow
    have hsource : (⟨joined.1.userIdentity, minerSessionFromRow joined.1 joined.2 now⟩ :
        PushedSession F) ∈ sources lib network now rows stats knownMiners order := by
      rw [sources, liveSessions, rowSessions]
      exact List.mem_append_left _ (List.mem_append_left _
        (List.mem_map.2 ⟨joined, hjoined, rfl⟩))
    have hshown : ∃ worker ∈ buildMinerWorkers lib network now (some rows) stats knownMiners
        order workerOrder, minerSessionFromRow joined.1 joined.2 now ∈ worker.sessions ∧
          worker.workerId = workerIdOf lib network joined.1.userIdentity :=
      mem_sessions_iff.2 ⟨_, hsource, rfl, rfl⟩
    obtain ⟨worker, hworker, hsession, -⟩ := hshown
    exact closedIn_eq_false_iff.1 (h.connected worker hworker _ hsession hconnected)
  · intro hrows
    have hopen : ∀ worker ∈ buildMinerWorkers lib network now (some rows) stats knownMiners
        order workerOrder, ∀ session ∈ worker.sessions, session.connected = true →
        closedIn stats session = false ∧ session.closedAt = none := by
      intro worker hworker session hsession hconnected
      obtain ⟨p, hp, -, rfl⟩ := mem_sessions_iff.1 ⟨worker, hworker, hsession, rfl⟩
      exact open_of_mem_sources hstats hkinds hknown hrows hp hconnected
    constructor
    · intro worker hworker session hsession hconnected
      exact (hopen worker hworker session hsession hconnected).1
    · intro worker hworker session hsession hconnected
      exact (hopen worker hworker session hsession hconnected).2
    · intro worker hworker
      have hfilter : (worker.sessions.filter fun s => s.connected && !closedIn stats s) =
          worker.sessions.filter (·.connected) := by
        refine List.filter_congr fun session hsession => ?_
        cases hconnected : session.connected with
        | false => rfl
        | true => rw [(hopen worker hworker session hsession hconnected).1]; rfl
      rw [hfilter]
      obtain ⟨id, first, -, rfl⟩ := mem_buildMinerWorkers.1 hworker
      rfl
    · intro worker hworker honline
      have hconnected : ∃ session ∈ worker.sessions, session.connected = true := by
        obtain ⟨id, first, -, rfl⟩ := mem_buildMinerWorkers.1 hworker
        exact exists_connected_of_online honline
      obtain ⟨session, hsession, hsome⟩ := hconnected
      exact ⟨session, hsession, hsome, (hopen worker hworker session hsession hsome).1⟩

/-! ## Runs -/

omit [Double F] in
/-- The registry lists one snapshot for a channel. -/
theorem nodup_snapshots (r : MinerStatsRegistry F) (now : UInt64)
    (order : IterOrder (MinerSessionSnapshot F)) :
    ((r.snapshots now order).2.map MinerSessionSnapshot.key).Nodup := by
  have hinj : Function.Injective fun key : MinerSessionKey =>
      (key.downstreamId, key.channelId, key.channelKind.asStr) := by
    intro key key' h
    simp only [Prod.mk.injEq] at h
    have hkind := MinerChannelKind.asStr_injective h.2.2
    cases key
    cases key'
    simp_all
  have hkeys := (r.sessions.retain fun _ stats => stats.retained now).keys_nodup.map hinj
  simp only [MinerStatsRegistry.snapshots]
  rw [((order.perm _).map _).nodup_iff, List.map_map]
  rw [AList.keys, List.keys, List.map_map] at hkeys
  exact hkeys

variable {s s' : DashboardState F} {action : DashboardAction F}

omit [Double F] in
/-- A poll that goes on to a stage without snapshots. -/
theorem SourcesValid.insertPoll (h : SourcesValid s) (p : ℕ) {poll : Poll F}
    (hpoll : ∀ rows stats now, poll ≠ .counted rows stats now) :
    ∀ p' rows stats now, (s.polls.insert p poll).lookup p' = some (.counted rows stats now) →
      (stats.map MinerSessionSnapshot.key).Nodup ∧
        ∀ stat ∈ stats, stat.channelKind ≠ "last".toList := by
  intro p' rows stats now hp'
  rw [AssocMap.lookup_insert_if] at hp'
  split at hp'
  · exact absurd (Option.some.inj hp') (hpoll rows stats now)
  · exact h.stats p' rows stats now hp'

/-- **What one step preserves.** -/
theorem SourcesValid.step (h : SourcesValid s)
    (hstep : DashboardStep lib targetHexToDifficulty s action s') : SourcesValid s' := by
  cases hstep with
  | tick now hle => exact ⟨h.stats, h.known⟩
  | call call => exact ⟨h.stats, h.known⟩
  | apply order event pending hpending =>
    refine ⟨h.stats, applyEvent_all lib h.known ?_ ?_ ?_ ?_⟩
    · intro d c k u hash t _ old identity _
      rfl
    · intro row c _ hconnected
      exact absurd rfl hconnected
    · exact fun row n d b t hrow => hrow
    · exact fun row n t hrow => hrow
  | delete query => exact ⟨h.stats, apiDeleteMiner_all query h.known⟩
  | sample p items hnew => exact ⟨h.insertPoll p (by simp), h.known⟩
  | merge p order currentMiners hp => exact ⟨h.insertPoll p (by simp), h.known⟩
  | count p order rows hp =>
    refine ⟨fun p' rows' stats' now' hp' => ?_, h.known⟩
    simp only [AssocMap.lookup_insert_if] at hp'
    split at hp'
    · have heq := Poll.counted.inj (Option.some.inj hp')
      rw [← heq.2.1]
      refine ⟨nodup_snapshots _ _ _, fun stat hstat => ?_⟩
      obtain ⟨key, stats, -, -, rfl⟩ := MinerStatsRegistry.mem_snapshots.1 hstat
      cases hkind : key.channelKind <;> simp [MinerStatsRegistry.snapshotOf, hkind] <;> decide
    · exact h.stats p' rows' stats' now' hp'
  | respond p rows stats now order statOrder workerOrder hp =>
    refine ⟨fun p' rows' stats' now' hp' => ?_, ?_⟩
    · simp only [AssocMap.lookup_erase_if] at hp'
      split at hp'
      · cases hp'
      · exact h.stats p' rows' stats' now' hp'
    · intro k row hrow
      rw [(readMiners_spec s.history.db order).1] at hrow
      exact h.known k row hrow
  | start network db hopen =>
    refine ⟨nofun, fun k row hrow hconnected => ?_⟩
    rw [lookup_of_openHistory hopen, Option.map_eq_some_iff] at hrow
    obtain ⟨old, -, rfl⟩ := hrow
    exact absurd rfl hconnected

/-- A response shows closed sessions as offline exactly if its rows are open. -/
theorem showsClosedOffline_step_iff (h : SourcesValid s)
    (hstep : DashboardStep lib targetHexToDifficulty s action s') :
    ShowsClosedOffline s action ↔ RowsOpen s action := by
  cases hstep with
  | respond p rows stats now order statOrder workerOrder hp =>
    obtain ⟨hstats, hkinds⟩ := h.stats p rows stats now hp
    have hknown : ∀ miner ∈ (readMiners s.history.db order).1, miner.connected = true →
        miner.closedAt = none := by
      intro miner hminer hconnected
      obtain ⟨k, row, hrow, rfl⟩ := (readMiners_spec s.history.db order).2 miner hminer
      have hclosed : row.closedAt = none := h.known k row hrow (by
        simpa [KnownMinerRow.toKnownMiner] using hconnected)
      simp [KnownMinerRow.toKnownMiner, hclosed]
    have hiff : ClosedOffline stats (buildMinerWorkers lib s.network now (some rows) stats
          (readMiners s.history.db order).1 statOrder workerOrder) ↔
        ∀ row ∈ rows, row.connected = true → ∀ stat ∈ stats, stat.key = row.key →
          stat.closedAt = none := closedOffline_iff hstats hkinds hknown
    constructor
    · intro hshows rows' stats' now' hp'
      have heq := Poll.counted.inj (Option.some.inj (hp.symm.trans hp'))
      rw [← heq.1, ← heq.2.1]
      exact hiff.1 (hshows rows stats now hp)
    · intro hopen rows' stats' now' hp'
      have heq := Poll.counted.inj (Option.some.inj (hp.symm.trans hp'))
      rw [← heq.2.1]
      exact hiff.2 (hopen rows stats now hp)
  | _ => exact Iff.rfl

omit [Double F] in
theorem sourcesValid_of_start (s : DashboardState F) (h : DashboardStart s) : SourcesValid s := by
  obtain ⟨-, -, hknown, -, -, hpolls⟩ := h
  refine ⟨fun p rows stats now hp => ?_, fun k row hrow => ?_⟩
  · rw [hpolls] at hp
    cases hp
  · rw [hknown] at hrow
    cases hrow

/-- The rows of a response are open exactly if the channels are. -/
theorem rowsOpen_step_iff {log : SampleLog F} (h : log.Agrees lib targetHexToDifficulty s)
    (hstep : DashboardStep lib targetHexToDifficulty s action s') :
    RowsOpen s action ↔ ChannelsOpen lib targetHexToDifficulty log s action := by
  cases hstep with
  | respond p rows stats now order statOrder workerOrder hp =>
    obtain ⟨answered, registry, order', hanswered, hrows, hread, rfl⟩ :=
      h.counted p rows stats now hp
    constructor
    · intro hopen answered' registry' now' hanswered' hread' key stats hlists hstats hretained
      cases hanswered.symm.trans hanswered'
      cases hread.symm.trans hread'
      obtain ⟨row, hrow, hconnected, hkey⟩ := (hrows _).2 hlists
      have hstat : MinerStatsRegistry.snapshotOf key stats ∈ (registry.snapshots now order').2 :=
        MinerStatsRegistry.mem_snapshots.2 ⟨key, stats, hstats, hretained, rfl⟩
      exact hopen rows _ now hp row hrow hconnected _ hstat hkey.symm
    · intro hopen rows' stats' now' hp' row hrow hconnected stat hstat hkey
      cases hp.symm.trans hp'
      obtain ⟨key, stats, hstats, hretained, rfl⟩ := MinerStatsRegistry.mem_snapshots.1 hstat
      refine hopen answered registry now hanswered hread key stats ?_ hstats hretained
      exact (hrows _).1 ⟨row, hrow, hconnected, hkey.symm⟩
  | _ => exact Iff.rfl

/-- A step of a run starts from a state with valid sources, which agrees with the log. -/
theorem agrees_of_transition
    {before after : List (Transition (DashboardState F) (DashboardAction F))}
    {t : Transition (DashboardState F) (DashboardAction F)}
    (hrun : Run DashboardStart (DashboardStep lib targetHexToDifficulty)
      (before ++ t :: after) s) :
    SourcesValid t.before ∧ (sampleLog lib targetHexToDifficulty before).Agrees lib
      targetHexToDifficulty t.before ∧
      DashboardStep lib targetHexToDifficulty t.before t.action t.after := by
  obtain ⟨hbefore, hstep⟩ := hrun.reaches
  exact ⟨hbefore.invariant sourcesValid_of_start fun _ _ _ h hs => h.step hs,
    sampleLog_agrees hbefore, hstep⟩

/-- **Closed sessions are offline exactly if the channels are open.**  In every run, whatever
the samples are, the responses show no closed session as connected, count the hashrate of
none and make no worker online by them, exactly if at none of them a channel that the last
answered sample lists was closed by the time the registry was read. -/
theorem showsClosedOffline_iff_channelsOpen
    {ts : List (Transition (DashboardState F) (DashboardAction F))}
    (hrun : Run DashboardStart (DashboardStep lib targetHexToDifficulty) ts s) :
    (∀ t ∈ ts, ShowsClosedOffline t.before t.action) ↔
      ∀ before t after, ts = before ++ t :: after → ChannelsOpen lib targetHexToDifficulty
        (sampleLog lib targetHexToDifficulty before) t.before t.action := by
  constructor
  · rintro hshows before t after rfl
    obtain ⟨hvalid, hagrees, hstep⟩ := agrees_of_transition hrun
    exact (rowsOpen_step_iff hagrees hstep).1
      ((showsClosedOffline_step_iff hvalid hstep).1 (hshows t (by simp)))
  · intro hopen t ht
    obtain ⟨before, after, rfl⟩ := List.append_of_mem ht
    obtain ⟨hvalid, hagrees, hstep⟩ := agrees_of_transition hrun
    exact (showsClosedOffline_step_iff hvalid hstep).2
      ((rowsOpen_step_iff hagrees hstep).2 (hopen before t after rfl))

/-! ## A channel that closes after it was sampled -/

/-- Alice's session is closed when the response is built. -/
theorem showsClosedOffline_iff_aliceOffline :
    ∃ ts final, Run DashboardStart (DashboardStep (F := ExactDouble) tableLib fun _ => none)
        ts final ∧
      (∃ t ∈ ts, t.action = .respond 0 aliceOffline.listed) ∧
      ((∀ t ∈ ts, ShowsClosedOffline t.before t.action) ↔
        ∀ before t after, ts = before ++ t :: after → ChannelsOpen tableLib (fun _ => none)
          (sampleLog tableLib (fun _ => none) before) t.before t.action) := by
  obtain ⟨ts, hrun⟩ := run_aliceOffline
  obtain ⟨final, hpoll⟩ := run_pollSteps (s := aliceOffline) rfl
  obtain ⟨t, ht, hresponse⟩ := respond_mem_pollSteps aliceOffline
  have hall := hrun.append hpoll
  exact ⟨_, final, hall, ⟨t, List.mem_append_right _ ht, hresponse⟩,
    showsClosedOffline_iff_channelsOpen hall⟩

/-- What the monitoring server answers while Alice's channel is open. -/
def aliceChannel : MonitoredChannel ExactDouble :=
  ⟨some aliceAddress, some 2, some (.num 5), some 3, none, none, none⟩

/-- The row of the channel, as it is kept. -/
def aliceRow : MinerRow ExactDouble :=
  (channelRow tableLib (fun _ => none) .regtest 1 "standard".toList aliceChannel).sampled 10

/-- Alice's channel is sampled while it is open, and the sample is merged. -/
theorem exists_merged : ∃ ts s rows, Run DashboardStart
      (DashboardStep (F := ExactDouble) tableLib fun _ => none) ts s ∧
    s.clock = 10 ∧ s.polls.lookup 0 = some (.merged rows) ∧ aliceRow ∈ rows ∧
    s.registry = (newDashboard.registry.recordChannelOpened 10 1 2 .standard aliceAddress
      (.num 5)).1 := by
  have hstart : Run DashboardStart (DashboardStep (F := ExactDouble) tableLib fun _ => none) []
      ⟨.regtest, 10, .new, [], ⟨⟨∅, []⟩, ∅⟩, ∅, ∅⟩ := .start ⟨rfl, rfl, rfl, rfl, rfl, rfl⟩
  have hnew := hstart.next (.start .regtest _ rfl)
  have hcall := hnew.next (.call (.channelOpened 1 2 .standard aliceAddress (.num 5)))
  have hsample := hcall.next (.sample 0
    (some [⟨some 1, some ⟨some [aliceChannel], none⟩⟩]) rfl)
  have hmerge := hsample.next (.merge 0 default _ (AssocMap.lookup_insert_if _ _ _ _))
  refine ⟨_, _, _, hmerge, rfl, AssocMap.lookup_insert_if _ _ _ _, ?_, rfl⟩
  rw [mem_connectedMiners]
  exact ⟨aliceRow.id, AssocMap.lookup_insert_if _ _ _ _⟩

/-- **A closed session is shown as online.**  The channel closes after it was sampled; the
response joins the connected row with the snapshot of the closed session. -/
theorem showsClosedOffline_fails_staleRow :
    ¬ ∀ (ts : List (Transition (DashboardState ExactDouble) (DashboardAction ExactDouble))) s,
      Run DashboardStart (DashboardStep tableLib fun _ => none) ts s →
        ∀ t ∈ ts, ShowsClosedOffline t.before t.action := by
  intro hall
  obtain ⟨ts, s, rows, hmerged, hclock, hpoll, hrow, hregistry⟩ := exists_merged
  have hclosed := hmerged.next (.call (.channelClosed 1 2 .standard))
  have hcounted := hclosed.next (.count 0 default rows hpoll)
  have hresponded := hcounted.next (.respond 0 rows _ _ default default default
    (AssocMap.lookup_insert_if _ _ _ _))
  obtain ⟨hvalid, -, hstep⟩ := agrees_of_transition hresponded
  have hopen := (showsClosedOffline_step_iff hvalid hstep).1
    (hall _ _ hresponded _ (List.mem_append_right _ (List.mem_singleton_self _))) rows _ _
    (AssocMap.lookup_insert_if _ _ _ _)
  have hstat : ∃ stat ∈ ((s.registry.recordChannelClosed s.clock 1 2 .standard).1.snapshots
      s.clock default).2, stat.key = aliceRow.key ∧ stat.closedAt = some 10 := by
    rw [hregistry, hclock]
    exact ⟨_, List.mem_cons_self, rfl, rfl⟩
  obtain ⟨stat, hmem, hkey, hclosedAt⟩ := hstat
  have hnone := hopen aliceRow hrow rfl stat hmem hkey
  rw [hclosedAt] at hnone
  cases hnone

end CanaryMining
