import CanaryMining.Dashboard.Aggregation
import CanaryMining.History.Lifetimes

/-!
# Stored identities

A row of the history is stored under the miner id of its identity on the network of the
server that wrote it.  The dashboard skips a known miner by this stored id, but puts it
into the worker of the id which its own network gives the identity.  The data directory
does not name the network, so the two may differ.

## Main definitions

* `RowsNamed` — every row is stored under the id of its identity on some network.
* `KeepsIdentity` — the dashboard shows every row as the worker of its stored id.
* `keepsIdentity_iff_storedHere` — it does so exactly if the rows it shows were stored on
  its own network.
-/

namespace CanaryMining

variable {Addr F : Type} (lib : AddressLib Addr) (network : Network) (now : UInt64)

/-- **The invariant.**  Every row is stored under the miner id which some network gives its
identity. -/
def RowsNamed (t : Table F) : Prop :=
  t.AllKeyed fun id row => ∃ network, minerIdFromIdentity lib network row.userIdentity = some id

variable [Double F]

/-- A known miner that is not skipped puts its session into a worker.  `live` are the ids
of the workers there are before the known miners. -/
structure Contributes (live : List Text) (knownMiners : List (KnownMiner F))
    (miner : KnownMiner F) (worker : MinerWorker F) : Prop where
  shown : miner ∈ shownMiners lib network live knownMiners
  workerId : worker.workerId = workerIdOf lib network miner.userIdentity
  session : minerSessionFromKnownMiner miner now ∈ worker.sessions

/-- **Rows keep their identity** in the workers that are shown of a table. -/
structure KeepsIdentity (t : Table F) (live : List Text) (knownMiners : List (KnownMiner F))
    (workers : List (MinerWorker F)) : Prop where
  own : ∀ worker ∈ workers, ∀ miner,
    Contributes lib network now live knownMiners miner worker → worker.workerId = miner.minerId
  /-- No two rows are merged into one worker. -/
  apart : ∀ worker ∈ workers, ∀ miner other,
    Contributes lib network now live knownMiners miner worker →
    Contributes lib network now live knownMiners other worker → miner.minerId = other.minerId
  /-- No row is hidden by another. -/
  shown : ∀ miner ∈ knownMiners, miner.minerId ∉ live →
    ∃ worker ∈ workers, Contributes lib network now live knownMiners miner worker
  /-- The id of an offline worker deletes its row. -/
  deletes : ∀ worker ∈ workers, worker.connected = false → ∀ miner,
    Contributes lib network now live knownMiners miner worker →
      ∃ db, deleteMiner ⟨t, []⟩ worker.workerId = (.ok true, db) ∧
        ∀ k, db.knownMiners.lookup k = if k = miner.minerId then none else t.lookup k

variable {lib network now}

/-! ## The rows of a run -/

/-- Only the opening of a channel stores a row, under the id its server's network gives. -/
theorem RowsNamed.step {s s' : LifetimeState F} {a : LifetimeAction F}
    (h : RowsNamed lib s.history.db.knownMiners) (hstep : LifetimeStep lib s a s') :
    RowsNamed lib s'.history.db.knownMiners := by
  cases hstep with
  | start network hopen =>
    intro id row hrow
    rw [lookup_of_openHistory hopen, Option.map_eq_some_iff] at hrow
    obtain ⟨old, hold, rfl⟩ := hrow
    exact h id old hold
  | event event order =>
    refine applyEvent_allKeyed lib h ?_ ?_ ?_ ?_
    · intro d c k u hash t _ id hid old identity
      exact ⟨_, hid⟩
    · exact fun id row c hrow => hrow
    · exact fun id row n d b t hrow => hrow
    · exact fun id row n t hrow => hrow
  | delete minerId => exact deleteOfflineMiner_allKeyed minerId h

/-- The rows over the lifetimes of servers, each on a network of its own. -/
theorem rowsNamed_of_run {ts : List (Transition (LifetimeState F) (LifetimeAction F))}
    {s : LifetimeState F} (hrun : Run NewDatabase (LifetimeStep lib) ts s) :
    RowsNamed lib s.history.db.knownMiners := by
  refine hrun.invariant (I := fun s => RowsNamed lib s.history.db.knownMiners) ?_
    fun _ _ _ h hs => h.step hs
  rintro s ⟨-, hempty⟩ id row hrow
  rw [hempty] at hrow
  cases hrow

/-! ## Stored ids and worker ids -/

omit [Double F] in
/-- An identity that is shown as the worker of a miner id has this id on the network of the
dashboard.  Were it not accepted there, it would be shown as itself, and a miner id is no
identity. -/
theorem minerIdFromIdentity_of_workerIdOf (hdash : lib.NeverDash) (hcolon : lib.ColonFree)
    {stored : Network} {userIdentity id : Text}
    (hstored : minerIdFromIdentity lib stored userIdentity = some id)
    (hworker : workerIdOf lib network userIdentity = id) :
    minerIdFromIdentity lib network userIdentity = some id := by
  cases hhere : minerIdFromIdentity lib network userIdentity with
  | some here =>
    rw [← hworker, workerIdOf_of_minerIdFromIdentity hdash hhere]
  | none =>
    obtain ⟨identity, hidentity⟩ :=
      (minerIdFromIdentity_isSome_iff lib stored userIdentity).1 (by rw [hstored]; rfl)
    have hid : id = minerId stored identity.payoutAddress identity.label := by
      simpa [minerIdFromIdentity, hidentity] using hstored.symm
    have hnone : ∀ i, parseMinerIdentity lib userIdentity network ≠ .ok i := by
      intro i hi
      simp [minerIdFromIdentity, hi] at hhere
    have hdisplay : displayIdentity lib network userIdentity =
        ("invalid identity".toList, "-".toList) := by
      rw [displayIdentity]
      split
      · rename_i i hi
        exact absurd hi (hnone i)
      · rfl
    have htrim := (splitIdentity_of_parseMinerIdentity hidentity).1
    have hself : workerIdOf lib network userIdentity = userIdentity := by
      rw [workerIdOf, hdisplay, minerRowId, if_neg (by simp), if_pos htrim]
    rw [hself, hid] at hworker
    rw [hworker] at hidentity
    exact absurd hidentity (parseMinerIdentity_minerId hcolon _ _ _)

omit [Double F] in
/-- The miners read back from a table have different ids. -/
theorem nodup_queryMiners (t : Table F) (order : IterOrder (Σ _ : Text, KnownMinerRow F)) :
    ((queryMiners t order).map (·.minerId)).Nodup := by
  have hperm : ((queryMiners t order).map (·.minerId)).Perm t.keys := by
    rw [queryMiners, List.map_map]
    exact ((List.mergeSort_perm _ _).trans (order.perm _)).map _
  exact hperm.nodup_iff.2 t.keys_nodup

omit [Double F] in
/-- The deletion of a row that is not connected. -/
theorem deleteMiner_of_offline {t : Table F} {id : Text} {row : KnownMinerRow F}
    (hrow : t.lookup id = some row) (hoffline : row.connected = 0) :
    deleteMiner ⟨t, []⟩ id = (.ok true, ⟨t.erase id, []⟩) := by
  simp [deleteMiner, initializeDb, Db.executeUnit, Db.execute, deleteOfflineMiner, deleteOffline,
    hrow, hoffline]

/-! ## Workers shown from history -/

section Shown

variable {currentMiners : Option (List (MinerRow F))} {stats : List (MinerSessionSnapshot F)}
  {knownMiners : List (KnownMiner F)} {order : IterOrder (MinerSessionSnapshot F)}
  {workerOrder : IterOrder (MinerWorker F)} {live : List Text}

/-- Every known miner that is not skipped contributes to a worker. -/
theorem exists_contributes
    (hlive : live = liveWorkerIds lib network (currentMiners.getD [])
      (leftStats (currentMiners.getD []) stats).values) {miner : KnownMiner F}
    (hminer : miner ∈ shownMiners lib network live knownMiners) :
    ∃ worker ∈ buildMinerWorkers lib network now currentMiners stats knownMiners order
      workerOrder, Contributes lib network now live knownMiners miner worker := by
  have hsource : knownSession now miner ∈
      sources lib network now (currentMiners.getD []) stats knownMiners order := by
    rw [sources_eq, ← hlive]
    exact List.mem_append_right _ (List.mem_map_of_mem hminer)
  obtain ⟨worker, hworker, hsession, hid⟩ :=
    mem_sessions_iff.2 ⟨knownSession now miner, hsource, rfl, rfl⟩
  exact ⟨worker, hworker, hminer, hid, hsession⟩

/-- The sessions of a worker that is not connected are not connected. -/
theorem connected_of_mem_offline {worker : MinerWorker F}
    (hworker : worker ∈ buildMinerWorkers lib network now currentMiners stats knownMiners order
      workerOrder) (hoffline : worker.connected = false) {session : MinerSession F}
    (hsession : session ∈ worker.sessions) : session.connected = false := by
  obtain ⟨id, first, -, rfl⟩ := mem_buildMinerWorkers.1 hworker
  have hany := List.any_eq_false.1 hoffline session hsession
  simpa using hany

end Shown

/-- **Rows keep their identity exactly where they were stored.**  Whatever servers on
whatever networks have written the database, the dashboard of a network shows every row as
the worker of its stored id, apart from the others and deletable by it, exactly if each row
that no connected worker hides is stored under the id its identity has on this network. -/
theorem keepsIdentity_iff_storedHere (hdash : lib.NeverDash) (hcolon : lib.ColonFree)
    {ts : List (Transition (LifetimeState F) (LifetimeAction F))} {s : LifetimeState F}
    (hrun : Run NewDatabase (LifetimeStep lib) ts s) (currentMiners : Option (List (MinerRow F)))
    (stats : List (MinerSessionSnapshot F)) (rowOrder : IterOrder (Σ _ : Text, KnownMinerRow F))
    (order : IterOrder (MinerSessionSnapshot F)) (workerOrder : IterOrder (MinerWorker F)) :
    KeepsIdentity lib network now s.history.db.knownMiners
        (liveWorkerIds lib network (currentMiners.getD [])
          (leftStats (currentMiners.getD []) stats).values)
        (queryMiners s.history.db.knownMiners rowOrder)
        (buildMinerWorkers lib network now currentMiners stats
          (queryMiners s.history.db.knownMiners rowOrder) order workerOrder) ↔
      ∀ id row, s.history.db.knownMiners.lookup id = some row →
        id ∉ liveWorkerIds lib network (currentMiners.getD [])
          (leftStats (currentMiners.getD []) stats).values →
        minerIdFromIdentity lib network row.userIdentity = some id := by
  have hnamed := rowsNamed_of_run hrun
  generalize s.history.db.knownMiners = t at hnamed ⊢
  generalize hlive : liveWorkerIds lib network (currentMiners.getD [])
    (leftStats (currentMiners.getD []) stats).values = live
  constructor
  · intro h id row hrow hnot
    obtain ⟨stored, hstored⟩ := hnamed id row hrow
    have hmem : row.toKnownMiner id ∈ queryMiners t rowOrder :=
      mem_queryMiners.2 ⟨id, row, hrow, rfl⟩
    obtain ⟨worker, hworker, hcontributes⟩ := h.shown _ hmem hnot
    have hown : worker.workerId = id := h.own worker hworker _ hcontributes
    exact minerIdFromIdentity_of_workerIdOf hdash hcolon hstored
      (hcontributes.workerId.symm.trans hown)
  · intro h
    have hids : ∀ miner ∈ queryMiners t rowOrder, miner.minerId ∉ live →
        workerIdOf lib network miner.userIdentity = miner.minerId := by
      intro miner hminer hnot
      obtain ⟨id, row, hrow, rfl⟩ := mem_queryMiners.1 hminer
      exact workerIdOf_of_minerIdFromIdentity hdash (h id row hrow hnot)
    have hshown := shownMiners_eq_filter (nodup_queryMiners t rowOrder) hids
    have hmem : ∀ miner, miner ∈ shownMiners lib network live (queryMiners t rowOrder) ↔
        miner ∈ queryMiners t rowOrder ∧ miner.minerId ∉ live := by
      intro miner
      rw [hshown, List.mem_filter, decide_eq_true_eq]
    have hown : ∀ miner worker,
        Contributes lib network now live (queryMiners t rowOrder) miner worker →
          worker.workerId = miner.minerId := by
      intro miner worker hc
      have hminer := (hmem miner).1 hc.shown
      exact hc.workerId.trans (hids miner hminer.1 hminer.2)
    constructor
    case own => exact fun worker _ miner hc => hown miner worker hc
    case apart =>
      intro worker _ miner other hc hc'
      exact (hown miner worker hc).symm.trans (hown other worker hc')
    case shown =>
      intro miner hminer hnot
      exact exists_contributes hlive.symm ((hmem miner).2 ⟨hminer, hnot⟩)
    case deletes =>
      intro worker hworker hoffline miner hc
      obtain ⟨id, row, hrow, rfl⟩ := mem_queryMiners.1 ((hmem miner).1 hc.shown).1
      have hsession := connected_of_mem_offline hworker hoffline hc.session
      have hconnected : row.connected = 0 := by
        simpa [minerSessionFromKnownMiner, KnownMinerRow.toKnownMiner] using hsession
      have hid : worker.workerId = id := hown _ worker hc
      refine ⟨⟨t.erase id, []⟩, ?_, fun k => AssocMap.lookup_erase_if t id k⟩
      rw [hid]
      exact deleteMiner_of_offline hrow hconnected

/-! ## One data directory on two networks -/

/-- An address of the repository's tests, which the test networks share. -/
def testnetAddress : Text :=
  "tb1qrp33g0q5c5txsp9arysrx4k6zdkfs4nce4xj0gdcccefvpysxf3q0sl5k7".toList

/-- Its pay-to-witness-script-hash script. -/
def testnetScript : Script :=
  [0, 32, 24, 99, 20, 60, 20, 197, 22, 104, 4, 189, 25, 32, 51, 86, 218, 19, 108, 152, 86, 120,
    205, 77, 39, 161, 184, 198, 50, 150, 4, 144, 50, 98]

/-- The address library on this address. -/
def testnetLib : AddressLib Unit where
  fromStr x := if x = testnetAddress then .ok () else .error "base58 error".toList
  requireNetwork _ n :=
    if n = .testnet ∨ n = .testnet4 ∨ n = .signet then .ok ()
    else .error "address is not valid on the network".toList
  toText _ := testnetAddress
  scriptPubkey _ := testnetScript
  fromDescriptor d :=
    if d = addrDescriptor testnetAddress then .ok testnetScript
    else .error "invalid descriptor".toList

theorem testnetLib_neverDash : testnetLib.NeverDash := by
  intro x a _
  have hdash : testnetAddress ≠ "-".toList := by decide
  exact hdash

theorem testnetLib_colonFree : testnetLib.ColonFree := by
  intro x a h
  by_cases hx : x = testnetAddress
  · rw [hx]
    decide
  · have herror : testnetLib.fromStr x = .error "base58 error".toList := if_neg hx
    rw [herror] at h
    cases h

/-- A server of `testnet4` on a new data directory. -/
def testnetStarted : LifetimeState ExactDouble :=
  ⟨some .testnet4, ⟨(openHistory unusedDirectory.history.db).2, ∅⟩⟩

/-- The channel of a miner that is paid to the address. -/
def testnetArrives : MinerStatsEvent ExactDouble :=
  .channelOpened 1 2 "standard".toList testnetAddress (.num 5) 10

/-- The server after the channel opened. -/
def testnetConnected : LifetimeState ExactDouble :=
  ⟨some .testnet4, (applyEvent testnetLib .testnet4 default testnetArrives
    testnetStarted.history).2⟩

/-- A server of `signet` on the same data directory. -/
def signetStarted : LifetimeState ExactDouble :=
  ⟨some .signet, ⟨(openHistory testnetConnected.history.db).2, ∅⟩⟩

theorem run_signetStarted :
    Run NewDatabase (LifetimeStep testnetLib)
      [⟨unusedDirectory, .start .testnet4, testnetStarted⟩,
        ⟨testnetStarted, .event testnetArrives default, testnetConnected⟩,
        ⟨testnetConnected, .start .signet, signetStarted⟩]
      signetStarted :=
  (((Run.start ⟨rfl, rfl⟩).next (.start .testnet4 rfl)).next
    (.event testnetArrives default rfl)).next (.start .signet rfl)

/-- A dashboard of `testnet4` shows the miner under its stored id. -/
theorem keepsIdentity_testnet4 :
    KeepsIdentity testnetLib .testnet4 20 signetStarted.history.db.knownMiners []
      (queryMiners signetStarted.history.db.knownMiners default)
      (buildMinerWorkers testnetLib .testnet4 20 none []
        (queryMiners signetStarted.history.db.knownMiners default) default default) := by
  refine (keepsIdentity_iff_storedHere testnetLib_neverDash testnetLib_colonFree run_signetStarted
    none [] default default default).2 fun id row hrow _ => ?_
  rw [AssocMap.lookup_eq_some] at hrow
  cases hrow with
  | head => decide +kernel
  | tail _ h => cases h

/-- **The same address on another network.**  A dashboard of `signet` shows the miner of
`testnet4` as a worker of another id. -/
theorem keepsIdentity_fails_signet :
    ¬ ∀ ts s, Run NewDatabase (LifetimeStep (F := ExactDouble) testnetLib) ts s →
      ∀ network now currentMiners stats rowOrder order workerOrder,
        KeepsIdentity testnetLib network now s.history.db.knownMiners
          (liveWorkerIds testnetLib network (currentMiners.getD [])
            (leftStats (currentMiners.getD []) stats).values)
          (queryMiners s.history.db.knownMiners rowOrder)
          (buildMinerWorkers testnetLib network now currentMiners stats
            (queryMiners s.history.db.knownMiners rowOrder) order workerOrder) := by
  intro hall
  have hkeeps := hall _ _ run_signetStarted .signet 20 none [] default default default
  obtain ⟨row, hrow⟩ : ∃ row, signetStarted.history.db.knownMiners.lookup
      (minerId .testnet4 testnetAddress "default".toList) = some row := ⟨_, rfl⟩
  have huser : row.userIdentity = testnetAddress := by
    cases hrow
    rfl
  obtain ⟨worker, hworker, hc⟩ :=
    hkeeps.shown _ (mem_queryMiners.2 ⟨_, row, hrow, rfl⟩) List.not_mem_nil
  have hown := hkeeps.own worker hworker _ hc
  rw [hc.workerId] at hown
  have hids : workerIdOf testnetLib .signet row.userIdentity =
      minerId .testnet4 testnetAddress "default".toList := hown
  rw [huser] at hids
  revert hids
  decide +kernel

end CanaryMining
