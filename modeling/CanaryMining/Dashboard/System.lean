import CanaryMining.Dashboard.Workers
import CanaryMining.History.Simulation

/-!
# The dashboard beside the server

The dashboard answers requests while the channels open and close and the history
writer works.  A status request reads its three sources at three different times:
first the monitoring server, then the rows seen so far, then the registry, then the
database.  A request is therefore a poll with a stage, and any other step of the
server may come between two stages of it.

## Main definitions

* `DashboardState` — the server as far as the dashboard reads it.
* `DashboardAction`, `DashboardStep` — its steps.
* `apiDeleteMiner`, `readMiners` — the requests to the database.
-/

namespace CanaryMining

/-- How far the answer to a status request is. -/
inductive Poll (F : Type)
  | sampled (currentMiners : Option (List (MinerRow F)))
  | merged (rows : List (MinerRow F))
  | counted (rows : List (MinerRow F)) (stats : List (MinerSessionSnapshot F)) (now : UInt64)

/-- The rows a poll has read. -/
def Poll.rows {F : Type} : Poll F → List (MinerRow F)
  | sampled currentMiners => currentMiners.getD []
  | merged rows => rows
  | counted rows _ _ => rows

/-- The snapshots a poll has read. -/
def Poll.stats {F : Type} : Poll F → List (MinerSessionSnapshot F)
  | counted _ stats _ => stats
  | _ => []

/-- The server as far as the dashboard reads it. -/
structure DashboardState (F : Type) where
  network : Network
  /-- What `unix_now` returns. -/
  clock : UInt64
  registry : MinerStatsRegistry F
  /-- The events the history writer has not taken yet. -/
  pending : List (MinerStatsEvent F)
  history : HistoryState F
  seenMiners : SeenMiners F
  polls : AssocMap ℕ (Poll F)

/-- The answer to a request to delete a miner. -/
inductive DeleteResponse
  | ok (deleted : Bool)
  | error (status : ℕ) (error : Text)
  deriving DecidableEq, Repr

/-- A step of the clock, of the server, of its history writer or of a request. -/
inductive DashboardAction (F : Type)
  | tick (now : UInt64)
  | call (call : RegistryCall F)
  | apply (order : SessionOrder)
  | delete (query : Text) (response : DeleteResponse)
  | sample (poll : ℕ) (items : Option (List (MonitoredClient F)))
  | merge (poll : ℕ) (order : IterOrder (MinerRow F))
  | count (poll : ℕ) (order : IterOrder (MinerSessionSnapshot F))
  | respond (poll : ℕ) (workers : List (MinerWorker F))
  | start (network : Network)

section Requests

variable {F : Type}

/-- `api_delete_miner`. -/
def apiDeleteMiner (query : Text) (db : Db F) : DeleteResponse × Db F :=
  let minerId := query.trim
  if minerId = [] then (.error 400 "miner_id_required".toList, db)
  else match deleteMiner db minerId with
    | (.ok deleted, db) => (.ok deleted, db)
    | (.error _, db) => (.error 500 "delete_miner_failed".toList, db)

/-- `MinerHistory::miners`, and the empty list where it fails. -/
def readMiners (db : Db F) (order : IterOrder (Σ _ : Text, KnownMinerRow F)) :
    List (KnownMiner F) × Db F :=
  match initializeDb db with
  | (.error _, db) => ([], db)
  | (.ok (), db) =>
    match db.faults with
    | true :: faults => ([], { db with faults := faults })
    | faults => (queryMiners db.knownMiners order, { db with faults := faults.tail })

/-- A deletion reports that it deleted exactly if there was a row that was not connected,
which is then the only row removed. -/
theorem apiDeleteMiner_eq_deleted {query : Text} {db db' : Db F}
    (h : apiDeleteMiner query db = (.ok true, db')) :
    (∃ row, db.knownMiners.lookup query.trim = some row ∧ row.connected = 0) ∧
      ∀ m, db'.knownMiners.lookup m =
        if m = query.trim then none else db.knownMiners.lookup m := by
  unfold apiDeleteMiner at h
  simp only at h
  split at h
  · cases h
  · split at h
    · rename_i deleted db₁ hdelete
      simp only [Prod.mk.injEq, DeleteResponse.ok.injEq] at h
      obtain ⟨rfl, rfl⟩ := h
      unfold deleteMiner at hdelete
      split at hdelete
      · cases hdelete
      · rename_i db₂ hinit
        obtain ⟨n, hs⟩ := Db.executeUnit_eq_ok hinit
        simp only [Except.ok.injEq, Prod.mk.injEq] at hs
        have hrow := deleteOfflineMiner_eq_ok hdelete
        simp only [← hs.1, true_and] at hrow
        exact ⟨hrow.1.1 trivial, hrow.2⟩
    · cases h

/-- A deletion keeps a property of rows, whatever it answers. -/
theorem apiDeleteMiner_all {Q : KnownMinerRow F → Prop} {db : Db F} (query : Text)
    (h : db.knownMiners.All Q) : (apiDeleteMiner query db).2.knownMiners.All Q := by
  have hinit : (initializeDb db).2.knownMiners.All Q :=
    Db.executeUnit_preserves h fun t n ht => by
      cases ht
      exact h
  have hdelete : (deleteMiner db query.trim).2.knownMiners.All Q := by
    unfold deleteMiner
    split <;> rename_i db' he <;> rw [he] at hinit
    · exact hinit
    · exact deleteOfflineMiner_all _ hinit
  unfold apiDeleteMiner
  simp only
  split
  · exact h
  · split <;> rename_i db' he <;> rw [he] at hdelete <;> exact hdelete

/-- The miners read are rows of the table, which stays as it is. -/
theorem readMiners_spec (db : Db F) (order : IterOrder (Σ _ : Text, KnownMinerRow F)) :
    (readMiners db order).2.knownMiners = db.knownMiners ∧
      ∀ miner ∈ (readMiners db order).1,
        ∃ k row, db.knownMiners.lookup k = some row ∧ miner = row.toKnownMiner k := by
  have hinit : (initializeDb db).2.knownMiners = db.knownMiners :=
    Db.executeUnit_preserves (P := fun t => t = db.knownMiners) rfl fun t n ht => by
      cases ht
      rfl
  unfold readMiners
  split
  · rename_i e db' he
    rw [he] at hinit
    exact ⟨hinit, nofun⟩
  · rename_i db' he
    rw [he] at hinit
    split
    · exact ⟨hinit, nofun⟩
    · refine ⟨hinit, fun miner hminer => ?_⟩
      rw [← hinit]
      exact mem_queryMiners.1 hminer

end Requests

variable {Addr F : Type} [Double F] (lib : AddressLib Addr)
  (targetHexToDifficulty : Text → Option F)

/-- The steps.  A server that starts keeps nothing but the database. -/
inductive DashboardStep : DashboardState F → DashboardAction F → DashboardState F → Prop
  | tick {s : DashboardState F} (now : UInt64) (h : s.clock ≤ now) :
      DashboardStep s (.tick now) { s with clock := now }
  | call {s : DashboardState F} (call : RegistryCall F) :
      DashboardStep s (.call call)
        { s with
          registry := (call.run s.clock s.registry).1
          pending := s.pending ++ (call.run s.clock s.registry).2 }
  | apply {s : DashboardState F} (order : SessionOrder) (event : MinerStatsEvent F)
      (pending : List (MinerStatsEvent F)) (h : s.pending = event :: pending) :
      DashboardStep s (.apply order)
        { s with
          pending := pending
          history := (applyEvent lib s.network order event s.history).2 }
  | delete {s : DashboardState F} (query : Text) :
      DashboardStep s (.delete query (apiDeleteMiner query s.history.db).1)
        { s with history := { s.history with db := (apiDeleteMiner query s.history.db).2 } }
  | sample {s : DashboardState F} (poll : ℕ) (items : Option (List (MonitoredClient F)))
      (hnew : s.polls.lookup poll = none) :
      DashboardStep s (.sample poll items)
        { s with
          polls := s.polls.insert poll
            (.sampled (fetchCurrentMiners lib targetHexToDifficulty s.network items)) }
  | merge {s : DashboardState F} (poll : ℕ) (order : IterOrder (MinerRow F))
      (currentMiners : Option (List (MinerRow F)))
      (h : s.polls.lookup poll = some (.sampled currentMiners)) :
      DashboardStep s (.merge poll order)
        { s with
          seenMiners := mergeSeenMiners s.seenMiners currentMiners s.clock
          polls := s.polls.insert poll
            (.merged (connectedMiners (mergeSeenMiners s.seenMiners currentMiners s.clock)
              order)) }
  | count {s : DashboardState F} (poll : ℕ) (order : IterOrder (MinerSessionSnapshot F))
      (rows : List (MinerRow F)) (h : s.polls.lookup poll = some (.merged rows)) :
      DashboardStep s (.count poll order)
        { s with
          registry := (s.registry.snapshots s.clock order).1
          polls := s.polls.insert poll
            (.counted rows (s.registry.snapshots s.clock order).2 s.clock) }
  | respond {s : DashboardState F} (poll : ℕ) (rows : List (MinerRow F))
      (stats : List (MinerSessionSnapshot F)) (now : UInt64)
      (order : IterOrder (Σ _ : Text, KnownMinerRow F))
      (statOrder : IterOrder (MinerSessionSnapshot F)) (workerOrder : IterOrder (MinerWorker F))
      (h : s.polls.lookup poll = some (.counted rows stats now)) :
      DashboardStep s
        (.respond poll (buildMinerWorkers lib s.network now (some rows) stats
          (readMiners s.history.db order).1 statOrder workerOrder))
        { s with
          history := { s.history with db := (readMiners s.history.db order).2 }
          polls := s.polls.erase poll }
  | start {s : DashboardState F} (network : Network) (db : Db F)
      (h : openHistory s.history.db = (.ok (), db)) :
      DashboardStep s (.start network) ⟨network, s.clock, .new, [], ⟨db, ∅⟩, ∅, ∅⟩

omit [Double F] in
/-- Before the first server starts: a new data directory, and nothing else. -/
def DashboardStart (s : DashboardState F) : Prop :=
  s.registry = .new ∧ s.pending = [] ∧ s.history.db.knownMiners = ∅ ∧ s.history.sessions = ∅ ∧
    s.seenMiners = ∅ ∧ s.polls = ∅

end CanaryMining
