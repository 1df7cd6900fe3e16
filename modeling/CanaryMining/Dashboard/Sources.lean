import CanaryMining.Dashboard.Workers
import CanaryMining.Lib.Group
import Mathlib.Data.List.Perm.Basic

/-!
# The sessions behind the workers

`build_miner_workers` pushes one session after the other into the worker of its identity.
Here the sessions are listed first, from the three sources in their order, and the workers
are what grouping this list by worker id gives.

## Main definitions

* `PushedSession` — a session with the identity it is pushed under.
* `joinRows`, `leftStats`, `shownMiners` — the rows with their snapshots, the snapshots no
  row took, and the known miners that are not skipped.
* `sources` — all sessions that are pushed.
* `mem_buildMinerWorkers`, `sessions_buildMinerWorkers` — what becomes of them.
-/

namespace CanaryMining

variable {Addr F : Type} [Double F] (lib : AddressLib Addr) (network : Network) (now : UInt64)

omit [Double F] in
/-- A session with the identity it is pushed under. -/
structure PushedSession (F : Type) where
  userIdentity : Text
  session : MinerSession F

omit [Double F] in
/-- The worker the session is pushed into. -/
def PushedSession.workerId (pushed : PushedSession F) : Text :=
  workerIdOf lib network pushed.userIdentity

/-- The workers after some sessions were pushed. -/
def pushAll (pushed : List (PushedSession F)) (workers : WorkerMap F) : WorkerMap F :=
  pushed.foldl (fun workers p => pushWorkerSession lib workers network p.userIdentity p.session)
    workers

omit [Double F] in
/-- The rows, each with the snapshot it takes out of the map. -/
def joinRows (stats : StatsByChannel F) :
    List (MinerRow F) → List (MinerRow F × Option (MinerSessionSnapshot F))
  | [] => []
  | miner :: miners =>
    (miner, stats.lookup miner.key) :: joinRows (stats.erase miner.key) miners

/-- The sessions of the first loop. -/
def rowSessions (rows : List (MinerRow F)) (stats : List (MinerSessionSnapshot F)) :
    List (PushedSession F) :=
  (joinRows (statsByChannel stats) rows).map fun joined =>
    ⟨joined.1.userIdentity, minerSessionFromRow joined.1 joined.2 now⟩

omit [Double F] in
/-- The snapshots that no row took. -/
def leftStats (rows : List (MinerRow F)) (stats : List (MinerSessionSnapshot F)) :
    StatsByChannel F :=
  (rows.map MinerRow.key).foldl (fun stats key => stats.erase key) (statsByChannel stats)

/-- The session of the second loop for a snapshot. -/
def statSession (stat : MinerSessionSnapshot F) : PushedSession F :=
  ⟨stat.userIdentity, minerSessionFromStat stat now⟩

/-- The session of the third loop for a known miner. -/
def knownSession (miner : KnownMiner F) : PushedSession F :=
  ⟨miner.userIdentity, minerSessionFromKnownMiner miner now⟩

omit [Double F] in
/-- The known miners that the third loop does not skip, where there are workers with the
given ids before it. -/
def shownMiners : List Text → List (KnownMiner F) → List (KnownMiner F)
  | _, [] => []
  | ids, miner :: miners =>
    if miner.minerId ∈ ids then shownMiners ids miners
    else miner :: shownMiners (workerIdOf lib network miner.userIdentity :: ids) miners

/-- The sessions of the first two loops. -/
def liveSessions (rows : List (MinerRow F)) (stats : List (MinerSessionSnapshot F))
    (order : IterOrder (MinerSessionSnapshot F)) : List (PushedSession F) :=
  rowSessions now rows stats ++ (order.order (leftStats rows stats).values).map (statSession now)

/-- All sessions that are pushed, in this order. -/
def sources (rows : List (MinerRow F)) (stats : List (MinerSessionSnapshot F))
    (knownMiners : List (KnownMiner F)) (order : IterOrder (MinerSessionSnapshot F)) :
    List (PushedSession F) :=
  liveSessions now rows stats order ++
    (shownMiners lib network ((liveSessions now rows stats order).map (·.workerId lib network))
      knownMiners).map (knownSession now)

/-- The worker of some sessions with one worker id, named after the first. -/
def groupWorker (first : PushedSession F) (sessions : List (MinerSession F)) : MinerWorker F :=
  { MinerWorker.empty (first.workerId lib network)
      (displayIdentity lib network first.userIdentity).1
      (displayIdentity lib network first.userIdentity).2 first.userIdentity with
    sessions := sessions }

variable {lib network now} {rows : List (MinerRow F)} {stats : List (MinerSessionSnapshot F)}
  {knownMiners : List (KnownMiner F)} {order : IterOrder (MinerSessionSnapshot F)}
  {workerOrder : IterOrder (MinerWorker F)} {pushed : List (PushedSession F)}

/-! ## Pushing sessions -/

theorem pushAll_append (pushed pushed' : List (PushedSession F)) (workers : WorkerMap F) :
    pushAll lib network (pushed ++ pushed') workers =
      pushAll lib network pushed' (pushAll lib network pushed workers) :=
  List.foldl_append

/-- Pushing sessions is grouping them by worker id. -/
theorem pushAll_eq_updateAll (pushed : List (PushedSession F)) (workers : WorkerMap F) :
    pushAll lib network pushed workers =
      AssocMap.updateAll (PushedSession.workerId lib network) (fun worker p =>
        let worker := worker.getD (groupWorker lib network p [])
        { worker with sessions := worker.sessions ++ [p.session] }) pushed workers :=
  rfl

/-- **The worker of an id** holds the sessions with this id, in the order in which they were
pushed. -/
theorem lookup_pushAll (pushed : List (PushedSession F)) (id : Text) :
    (pushAll lib network pushed ∅).lookup id =
      (pushed.filter fun p => p.workerId lib network = id).head?.map fun first =>
        groupWorker lib network first
          ((pushed.filter fun p => p.workerId lib network = id).map (·.session)) := by
  rw [pushAll_eq_updateAll, AssocMap.lookup_updateAll]
  generalize (pushed.filter fun p => p.workerId lib network = id) = group
  cases group with
  | nil => rfl
  | cons first rest =>
    simp only [List.foldl_cons, List.head?_cons, Option.map_some, List.map_cons]
    induction rest using List.reverseRecOn with
    | nil => rfl
    | append_singleton rest p ih =>
      rw [List.foldl_append, ih, List.map_append]
      rfl

/-- The workers hold every pushed session once, under its worker id. -/
theorem contentsOf_pushAll (pushed : List (PushedSession F)) :
    (AssocMap.contentsOf (fun id worker => worker.sessions.map (Prod.mk id))
        (pushAll lib network pushed ∅)).Perm
      (pushed.map fun p => (p.workerId lib network, p.session)) := by
  rw [pushAll_eq_updateAll]
  refine AssocMap.contentsOf_updateAll _ (fun worker p => ?_) pushed ∅
  cases worker with
  | none => rfl
  | some worker => simp

/-! ## The three loops -/

theorem foldl_pushRow (rows : List (MinerRow F)) (stats : StatsByChannel F)
    (workers : WorkerMap F) :
    rows.foldl (pushRow lib network now) (stats, workers) =
      ((rows.map MinerRow.key).foldl (fun stats key => stats.erase key) stats,
        pushAll lib network ((joinRows stats rows).map fun joined =>
          ⟨joined.1.userIdentity, minerSessionFromRow joined.1 joined.2 now⟩) workers) := by
  induction rows generalizing stats workers with
  | nil => rfl
  | cons miner rows ih =>
    rw [List.foldl_cons, pushRow, ih]
    rfl

theorem foldl_pushKnownMiner (miners : List (KnownMiner F)) {ids : List Text}
    {workers : WorkerMap F} (hids : ∀ id, id ∈ ids ↔ (workers.lookup id).isSome) :
    miners.foldl (pushKnownMiner lib network now) workers =
      pushAll lib network ((shownMiners lib network ids miners).map (knownSession now))
        workers := by
  induction miners generalizing ids workers with
  | nil => rfl
  | cons miner miners ih =>
    rw [List.foldl_cons, pushKnownMiner, shownMiners]
    by_cases hmem : miner.minerId ∈ ids
    · rw [if_pos ((hids _).1 hmem), if_pos hmem]
      exact ih hids
    · rw [if_neg fun hsome => hmem ((hids _).2 hsome), if_neg hmem]
      refine ih fun id => ?_
      rw [lookup_pushWorkerSession, List.mem_cons, hids]
      by_cases hid : id = workerIdOf lib network miner.userIdentity
      · simp [hid]
      · simp [hid]

/-- **The workers are the grouped sources.** -/
theorem collectWorkers_eq_pushAll (currentMiners : Option (List (MinerRow F))) :
    collectWorkers lib network now currentMiners stats knownMiners order =
      pushAll lib network (sources lib network now (currentMiners.getD []) stats knownMiners order)
        ∅ := by
  have hlive : (order.order (leftStats (currentMiners.getD []) stats).values).foldl
        (pushStat lib network now)
        (pushAll lib network (rowSessions now (currentMiners.getD []) stats) ∅) =
      pushAll lib network (liveSessions now (currentMiners.getD []) stats order) ∅ := by
    rw [liveSessions, pushAll_append]
    simp only [pushAll, List.foldl_map]
    rfl
  simp only [collectWorkers, foldl_pushRow]
  change (knownMiners.foldl (pushKnownMiner lib network now) (List.foldl _ (pushAll lib network
    (rowSessions now (currentMiners.getD []) stats) ∅) _)) = _
  rw [← leftStats, hlive, sources, pushAll_append]
  refine foldl_pushKnownMiner knownMiners fun id => ?_
  rw [lookup_pushAll, Option.isSome_map, List.mem_map, List.isSome_head?]
  simp

omit [Double F] in
theorem mem_of_mem_shownMiners {miners : List (KnownMiner F)} {ids : List Text}
    {miner : KnownMiner F} (h : miner ∈ shownMiners lib network ids miners) : miner ∈ miners := by
  induction miners generalizing ids with
  | nil => exact h
  | cons other miners ih =>
    rw [shownMiners] at h
    split at h
    · exact List.mem_cons_of_mem _ (ih h)
    · rcases List.mem_cons.1 h with h | h
      · exact h ▸ List.mem_cons_self
      · exact List.mem_cons_of_mem _ (ih h)

omit [Double F] in
/-- Which miners are skipped depends on which worker ids there are, not on their order. -/
theorem shownMiners_congr {ids ids' : List Text} (h : ∀ id, id ∈ ids ↔ id ∈ ids')
    (miners : List (KnownMiner F)) :
    shownMiners lib network ids miners = shownMiners lib network ids' miners := by
  induction miners generalizing ids ids' with
  | nil => rfl
  | cons miner miners ih =>
    have hcons : ∀ id, id ∈ workerIdOf lib network miner.userIdentity :: ids ↔
        id ∈ workerIdOf lib network miner.userIdentity :: ids' := by
      intro id
      rw [List.mem_cons, List.mem_cons, h]
    simp only [shownMiners, h, ih h, ih hcons]

/-- The three kinds of sources. -/
theorem mem_sources {p : PushedSession F}
    (h : p ∈ sources lib network now rows stats knownMiners order) :
    (∃ joined ∈ joinRows (statsByChannel stats) rows,
        p = ⟨joined.1.userIdentity, minerSessionFromRow joined.1 joined.2 now⟩) ∨
      (∃ stat ∈ (leftStats rows stats).values, p = statSession now stat) ∨
      ∃ miner ∈ knownMiners, p = knownSession now miner := by
  rw [sources, liveSessions, rowSessions, List.mem_append, List.mem_append, List.mem_map,
    List.mem_map, List.mem_map] at h
  rcases h with (⟨joined, hjoined, hp⟩ | ⟨stat, hstat, hp⟩) | ⟨miner, hminer, hp⟩
  · exact .inl ⟨joined, hjoined, hp.symm⟩
  · exact .inr (.inl ⟨stat, order.mem_order.1 hstat, hp.symm⟩)
  · exact .inr (.inr ⟨miner, mem_of_mem_shownMiners hminer, hp.symm⟩)

/-! ## What becomes of the sources -/

section Output

variable {currentMiners : Option (List (MinerRow F))}

/-- Every worker shown is the finalized group of its worker id. -/
theorem mem_buildMinerWorkers {worker : MinerWorker F} :
    worker ∈ buildMinerWorkers lib network now currentMiners stats knownMiners order
        workerOrder ↔
      ∃ id first, ((sources lib network now (currentMiners.getD []) stats knownMiners
          order).filter fun p => p.workerId lib network = id).head? = some first ∧
        worker = finalizeWorker (groupWorker lib network first
          (((sources lib network now (currentMiners.getD []) stats knownMiners order).filter
            fun p => p.workerId lib network = id).map (·.session))) := by
  simp only [buildMinerWorkers, List.mem_mergeSort, List.mem_map, IterOrder.mem_order,
    AssocMap.mem_values, collectWorkers_eq_pushAll, lookup_pushAll, Option.map_eq_some_iff]
  constructor
  · rintro ⟨_, ⟨id, first, hfirst, rfl⟩, rfl⟩
    exact ⟨id, first, hfirst, rfl⟩
  · rintro ⟨id, first, hfirst, rfl⟩
    exact ⟨_, ⟨id, first, hfirst, rfl⟩, rfl⟩

omit [Double F] in
theorem workerId_of_head? {id : Text} {first : PushedSession F}
    (h : (pushed.filter fun p => p.workerId lib network = id).head? = some first) :
    first.workerId lib network = id ∧ first ∈ pushed := by
  have hmem := List.mem_of_head? h
  rw [List.mem_filter, decide_eq_true_eq] at hmem
  exact hmem.symm

/-- The collected workers are stored under their ids. -/
theorem workerId_of_lookup_pushAll {id : Text} {worker : MinerWorker F}
    (h : (pushAll lib network pushed ∅).lookup id = some worker) : worker.workerId = id := by
  rw [lookup_pushAll, Option.map_eq_some_iff] at h
  obtain ⟨first, hfirst, hworker⟩ := h
  rw [← hworker]
  exact (workerId_of_head? hfirst).1

/-- The workers shown are the collected ones, finalized. -/
theorem buildMinerWorkers_perm :
    (buildMinerWorkers lib network now currentMiners stats knownMiners order workerOrder).Perm
      ((pushAll lib network (sources lib network now (currentMiners.getD []) stats knownMiners
        order) ∅).values.map finalizeWorker) := by
  rw [buildMinerWorkers, collectWorkers_eq_pushAll]
  exact (List.mergeSort_perm _ _).trans ((workerOrder.perm _).map finalizeWorker)

/-- The workers shown have different ids. -/
theorem nodup_workerIds :
    ((buildMinerWorkers lib network now currentMiners stats knownMiners order workerOrder).map
      (·.workerId)).Nodup := by
  rw [(buildMinerWorkers_perm.map _).nodup_iff, List.map_map, AssocMap.values, List.map_map]
  have hkeys : (pushAll lib network (sources lib network now (currentMiners.getD []) stats
        knownMiners order) ∅).entries.map
        (((·.workerId) ∘ finalizeWorker) ∘ fun e : (_ : Text) × MinerWorker F => e.2) =
      (pushAll lib network (sources lib network now (currentMiners.getD []) stats
        knownMiners order) ∅).entries.keys := by
    refine List.map_congr_left fun e he => ?_
    have hid := workerId_of_lookup_pushAll (AssocMap.lookup_eq_some.2 he)
    exact hid
  rw [hkeys]
  exact AList.keys_nodup _

/-- **Conservation.**  The workers shown hold every session that was pushed, once, in the
worker of the identity it was pushed under. -/
theorem sessions_buildMinerWorkers :
    ((buildMinerWorkers lib network now currentMiners stats knownMiners order
        workerOrder).flatMap fun worker => worker.sessions.map (Prod.mk worker.workerId)).Perm
      ((sources lib network now (currentMiners.getD []) stats knownMiners order).map
        fun p => (p.workerId lib network, p.session)) := by
  refine (buildMinerWorkers_perm.flatMap_right _).trans (List.Perm.trans ?_ (contentsOf_pushAll _))
  rw [AssocMap.values, List.flatMap_map, List.flatMap_map, AssocMap.contentsOf]
  refine List.Perm.flatMap_left _ fun e he => ?_
  have hid := workerId_of_lookup_pushAll (AssocMap.lookup_eq_some.2 he)
  have hsorted : (finalizeWorker e.2).sessions.Perm e.2.sessions := List.mergeSort_perm _ _
  change ((finalizeWorker e.2).sessions.map (Prod.mk e.2.workerId)).Perm _
  rw [hid]
  exact hsorted.map _

/-- A session is shown in a worker exactly if it was pushed under its id. -/
theorem mem_sessions_iff {id : Text} {session : MinerSession F} :
    (∃ worker ∈ buildMinerWorkers lib network now currentMiners stats knownMiners order
        workerOrder, session ∈ worker.sessions ∧ worker.workerId = id) ↔
      ∃ p ∈ sources lib network now (currentMiners.getD []) stats knownMiners order,
        p.workerId lib network = id ∧ p.session = session := by
  have hmem : (id, session) ∈ (buildMinerWorkers lib network now currentMiners stats knownMiners
        order workerOrder).flatMap (fun worker => worker.sessions.map (Prod.mk worker.workerId)) ↔
      (id, session) ∈ (sources lib network now (currentMiners.getD []) stats knownMiners
        order).map fun p => (p.workerId lib network, p.session) :=
    sessions_buildMinerWorkers.mem_iff
  simpa [List.mem_flatMap] using hmem

end Output

/-! ## Rows and snapshots -/

section Join

omit [Double F] in
/-- The snapshots by channel, where no two are of one channel. -/
theorem lookup_statsByChannel (hstats : (stats.map MinerSessionSnapshot.key).Nodup)
    {key : ChannelKey} {stat : MinerSessionSnapshot F} :
    (statsByChannel stats).lookup key = some stat ↔ stat ∈ stats ∧ stat.key = key := by
  have hlookup : (statsByChannel stats).lookup key =
      (stats.filter fun stat => stat.key = key).getLast? := by
    rw [statsByChannel]
    have h := AssocMap.lookup_foldl_insert MinerSessionSnapshot.key id stats ∅ key
    simpa using h
  have hmem : ∀ last, (stats.filter fun stat => stat.key = key).getLast? = some last →
      last ∈ stats ∧ last.key = key := by
    intro last hlast
    simpa using List.mem_filter.1 (List.mem_of_getLast? hlast)
  rw [hlookup]
  constructor
  · exact hmem stat
  · rintro ⟨hstat, hkey⟩
    have hne : stats.filter (fun stat => stat.key = key) ≠ [] :=
      List.ne_nil_of_mem (List.mem_filter.2 ⟨hstat, decide_eq_true hkey⟩)
    obtain ⟨last, hlast⟩ := Option.isSome_iff_exists.1 (List.getLast?_isSome.2 hne)
    obtain ⟨hlastMem, hlastKey⟩ := hmem last hlast
    rw [hlast, List.inj_on_of_nodup_map hstats hlastMem hstat (hlastKey.trans hkey.symm)]

omit [Double F] in
/-- A snapshot is left exactly if no row is of its channel. -/
theorem lookup_leftStats (hstats : (stats.map MinerSessionSnapshot.key).Nodup)
    {key : ChannelKey} {stat : MinerSessionSnapshot F} :
    (leftStats rows stats).lookup key = some stat ↔
      stat ∈ stats ∧ stat.key = key ∧ key ∉ rows.map MinerRow.key := by
  rw [leftStats, AssocMap.lookup_foldl_erase]
  by_cases hkey : key ∈ rows.map MinerRow.key
  · rw [if_pos hkey]
    simp [hkey]
  · rw [if_neg hkey, lookup_statsByChannel hstats]
    simp [hkey]

omit [Double F] in
/-- The snapshots left, in some order. -/
theorem values_leftStats (hstats : (stats.map MinerSessionSnapshot.key).Nodup) :
    (leftStats rows stats).values.Perm
      (stats.filter fun stat => stat.key ∉ rows.map MinerRow.key) := by
  have hvalues : ((leftStats rows stats).values.map MinerSessionSnapshot.key).Nodup := by
    rw [AssocMap.values, List.map_map]
    have hkeys : (leftStats rows stats).entries.map (MinerSessionSnapshot.key ∘
        fun e : (_ : ChannelKey) × MinerSessionSnapshot F => e.2) =
        (leftStats rows stats).entries.keys := by
      refine List.map_congr_left fun e he => ?_
      exact ((lookup_leftStats hstats).1 (AssocMap.lookup_eq_some.2 he)).2.1
    rw [hkeys]
    exact AList.keys_nodup _
  rw [List.perm_ext_iff_of_nodup hvalues.of_map (hstats.of_map.filter _)]
  intro stat
  rw [AssocMap.mem_values, List.mem_filter, decide_eq_true_eq]
  constructor
  · rintro ⟨key, hkey⟩
    obtain ⟨hmem, rfl, hrows⟩ := (lookup_leftStats hstats).1 hkey
    exact ⟨hmem, hrows⟩
  · rintro ⟨hmem, hrows⟩
    exact ⟨stat.key, (lookup_leftStats hstats).2 ⟨hmem, rfl, hrows⟩⟩

omit [Double F] in
theorem joinRows_fst (stats : StatsByChannel F) (rows : List (MinerRow F)) :
    (joinRows stats rows).map Prod.fst = rows := by
  induction rows generalizing stats with
  | nil => rfl
  | cons miner rows ih => rw [joinRows, List.map_cons, ih]

omit [Double F] in
/-- A row takes the snapshot of its channel or, where an earlier row took it, none. -/
theorem joinRows_snd {stats : StatsByChannel F} {rows : List (MinerRow F)}
    {joined : MinerRow F × Option (MinerSessionSnapshot F)} (h : joined ∈ joinRows stats rows) :
    joined.2 = none ∨ joined.2 = stats.lookup joined.1.key := by
  induction rows generalizing stats with
  | nil => cases h
  | cons miner rows ih =>
    rw [joinRows, List.mem_cons] at h
    rcases h with h | h
    · rw [h]
      exact .inr rfl
    · rcases ih h with hnone | hlookup
      · exact .inl hnone
      · rw [AssocMap.lookup_erase_if] at hlookup
        by_cases hkey : joined.1.key = miner.key
        · rw [if_pos hkey] at hlookup
          exact .inl hlookup
        · rw [if_neg hkey] at hlookup
          exact .inr hlookup

omit [Double F] in
/-- Where no two rows are of one channel, each takes the snapshot of its channel. -/
theorem joinRows_eq (hrows : (rows.map MinerRow.key).Nodup) (stats : StatsByChannel F) :
    joinRows stats rows = rows.map fun miner => (miner, stats.lookup miner.key) := by
  induction rows generalizing stats with
  | nil => rfl
  | cons miner rows ih =>
    rw [List.map_cons, List.nodup_cons] at hrows
    rw [joinRows, ih hrows.2, List.map_cons]
    congr 1
    refine List.map_congr_left fun other hother => ?_
    have hkey : other.key ≠ miner.key := by
      intro heq
      exact hrows.1 (heq ▸ List.mem_map_of_mem hother)
    rw [AssocMap.lookup_erase_if, if_neg hkey]

end Join

end CanaryMining
