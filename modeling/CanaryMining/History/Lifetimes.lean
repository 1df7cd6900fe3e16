import CanaryMining.History.Writer
import CanaryMining.Lib.Run

/-!
# Server lifetimes

A database outlives the servers that write it.  A server opens the history, which
marks every miner disconnected, and then applies events and deletions until it
stops, cleanly or not; the next one starts on whatever it left.

A close sets the time a miner closed and its uptime together.  Marking a miner
disconnected at startup sets the first without the second, so a row is left with
a time of closing and no uptime exactly when a server finds it connected.

## Main definitions

* `LifetimeAction`, `LifetimeStep` — starts of a server, events and deletions.
* `RowTimes` — the time fields of a row fit its connected flag.
* `FindsNoneConnected` — a server that starts finds no miner connected.
-/

namespace CanaryMining

/-- What happens to a database over the lifetimes of servers.  The next start comes
whenever the server before it has ended, however it ended. -/
inductive LifetimeAction (F : Type)
  | start (network : Network)
  | event (event : MinerStatsEvent F) (order : SessionOrder)
  | delete (minerId : Text)

/-- The history of the running server, and its network if one was ever started. -/
structure LifetimeState (F : Type) where
  network : Option Network
  history : HistoryState F

variable {Addr F : Type} [Double F] (lib : AddressLib Addr)

/-- The start of a server, an event, or a deletion.  Any statement of an event or a
deletion may fail; a server that fails to open its history does not start. -/
inductive LifetimeStep : LifetimeState F → LifetimeAction F → LifetimeState F → Prop
  | start {s : LifetimeState F} {db : Db F} (network : Network)
      (h : openHistory s.history.db = (.ok (), db)) :
      LifetimeStep s (.start network) ⟨some network, ⟨db, ∅⟩⟩
  | event {s : LifetimeState F} {network : Network} (event : MinerStatsEvent F)
      (order : SessionOrder) (h : s.network = some network) :
      LifetimeStep s (.event event order)
        ⟨some network, (applyEvent lib network order event s.history).2⟩
  | delete {s : LifetimeState F} {network : Network} (minerId : Text)
      (h : s.network = some network) :
      LifetimeStep s (.delete minerId)
        ⟨some network, { s.history with db := (deleteOfflineMiner s.history.db minerId).2 }⟩

/-- A new data directory: no server has run, and the table is empty. -/
def NewDatabase (s : LifetimeState F) : Prop := s.network = none ∧ s.history.db.knownMiners = ∅

/-- A connected row has neither a time of closing nor an uptime; a row that is not
connected has both, and the uptime is the time from opening to closing. -/
structure RowTimes (row : KnownMinerRow F) : Prop where
  connected : row.connected = 1 → row.closedAt = none ∧ row.uptimeSeconds = none
  offline : row.connected = 0 → ∃ c o, row.closedAt = some c ∧ row.openedAt = some o ∧
    row.nominalHashrate = Double.zero ∧ row.uptimeSeconds = some (max (c - o) 0)

/-- The time fields of every row fit. -/
def TimesFit (s : LifetimeState F) : Prop := s.history.db.knownMiners.All RowTimes

/-- A server that starts finds no row connected. -/
def FindsNoneConnected (s : LifetimeState F) : LifetimeAction F → Prop
  | .start _ => s.history.db.knownMiners.All fun row => row.connected ≠ 1
  | _ => True

/-- What every row satisfies however servers end: it has been opened, and its flag
is a flag. -/
def RowOpened (row : KnownMinerRow F) : Prop :=
  row.openedAt.isSome ∧ (row.connected = 0 ∨ row.connected = 1)

/-- `RowOpened` of every row. -/
def RowsOpened (s : LifetimeState F) : Prop := s.history.db.knownMiners.All RowOpened

section Steps

variable {lib} {s s' : LifetimeState F} {a : LifetimeAction F}

theorem RowsOpened.step (h : RowsOpened s) (hs : LifetimeStep lib s a s') : RowsOpened s' := by
  cases hs with
  | start network hopen =>
    intro m row hrow
    rw [lookup_of_openHistory hopen, Option.map_eq_some_iff] at hrow
    obtain ⟨row, hrow, rfl⟩ := hrow
    exact ⟨(h m row hrow).1, .inl rfl⟩
  | event event order =>
    refine applyEvent_all lib h (fun _ _ _ _ _ _ _ _ _ => ⟨rfl, .inr rfl⟩) ?_ ?_ ?_
    · exact fun row c hrow => ⟨hrow.1, .inl rfl⟩
    · exact fun row n d b t hrow => hrow
    · exact fun row n t hrow => hrow
  | delete minerId => exact deleteOfflineMiner_all minerId h

/-- An opened row that is closed has the uptime of its session. -/
theorem rowTimes_closed {row : KnownMinerRow F} (h : RowOpened row) (c : ℤ) :
    RowTimes (row.closed c) := by
  obtain ⟨o, ho⟩ := Option.isSome_iff_exists.1 h.1
  refine ⟨fun hc => by simp [KnownMinerRow.closed] at hc, fun _ => ⟨c, o, rfl, ho, rfl, ?_⟩⟩
  simp only [KnownMinerRow.closed, ho]

/-- No event, and no statement of one that fails, makes the time fields of a row
disagree. -/
theorem applyEvent_times {network : Network} {s : HistoryState F} (order : SessionOrder)
    (event : MinerStatsEvent F)
    (h : s.db.knownMiners.All fun row => RowOpened row ∧ RowTimes row) :
    (applyEvent lib network order event s).2.db.knownMiners.All
      fun row => RowOpened row ∧ RowTimes row := by
  refine applyEvent_all lib h ?_ ?_ ?_ ?_
  · intro d c k u hash t _ old identity
    refine ⟨⟨rfl, .inr rfl⟩, fun _ => ⟨rfl, rfl⟩, fun h0 => ?_⟩
    simp [KnownMinerRow.opened] at h0
  · exact fun row c hrow => ⟨⟨hrow.1.1, .inl rfl⟩, rowTimes_closed hrow.1 c⟩
  · exact fun row n d b t hrow => ⟨hrow.1, hrow.2.1, hrow.2.2⟩
  · exact fun row n t hrow => ⟨hrow.1, hrow.2.1, hrow.2.2⟩

/-- Marking a miner disconnected keeps its time fields fitting exactly if it was
not connected. -/
theorem rowTimes_disconnected_iff {row : KnownMinerRow F} (h : RowTimes row)
    (hopened : RowOpened row) : RowTimes row.disconnected ↔ row.connected ≠ 1 := by
  constructor
  · intro h' hc
    obtain ⟨c, o, -, -, -, hup⟩ := h'.offline rfl
    have hnone := (h.connected hc).2
    rw [KnownMinerRow.disconnected, hnone] at hup
    cases hup
  · intro hc
    obtain ⟨c, o, hclosed, hopen, -, hup⟩ := h.offline (hopened.2.resolve_right hc)
    refine ⟨fun h1 => by simp [KnownMinerRow.disconnected] at h1, fun _ => ?_⟩
    exact ⟨c, o, by simp [KnownMinerRow.disconnected, hclosed], hopen, rfl, hup⟩

/-- **One step.**  Where the time fields fit, a step keeps them fitting exactly if
it is not a start that finds a miner connected. -/
theorem timesFit_step_iff (hopened : RowsOpened s) (h : TimesFit s)
    (hs : LifetimeStep lib s a s') : TimesFit s' ↔ FindsNoneConnected s a := by
  cases hs with
  | start network hopen =>
    constructor
    · intro h' m row hrow
      have hrow' := lookup_of_openHistory hopen m
      rw [hrow, Option.map_some] at hrow'
      exact (rowTimes_disconnected_iff (h m row hrow) (hopened m row hrow)).1 (h' m _ hrow')
    · intro hnone m row hrow
      rw [lookup_of_openHistory hopen, Option.map_eq_some_iff] at hrow
      obtain ⟨row, hrow, rfl⟩ := hrow
      exact (rowTimes_disconnected_iff (h m row hrow) (hopened m row hrow)).2 (hnone m row hrow)
  | event event order =>
    refine iff_of_true (fun m row hrow => ?_) trivial
    exact (applyEvent_times order event (fun m row hrow =>
      ⟨hopened m row hrow, h m row hrow⟩) m row hrow).2
  | delete minerId => exact iff_of_true (deleteOfflineMiner_all minerId h) trivial

end Steps

/-- **Time fields over server lifetimes.**  The time fields of every row fit in
every state of a run exactly if no server that starts finds a miner connected. -/
theorem timesFit_iff_findsNoneConnected
    {ts : List (Transition (LifetimeState F) (LifetimeAction F))} {s : LifetimeState F}
    (h : Run NewDatabase (LifetimeStep lib) ts s) :
    (∀ t ∈ ts, TimesFit t.after) ↔ ∀ t ∈ ts, FindsNoneConnected t.before t.action := by
  refine Run.forall_good_iff_guard (I := RowsOpened) ?_ (fun _ _ _ => RowsOpened.step)
    (fun _ _ _ => timesFit_step_iff) h
  rintro s ⟨-, hs⟩
  constructor <;> intro m row hrow <;> simp [hs] at hrow

/-! ## A stop and a crash -/

/-- A data directory no server has used. -/
def unusedDirectory : LifetimeState ExactDouble := ⟨none, ⟨⟨∅, []⟩, ∅⟩⟩

/-- The state after a server started. -/
def LifetimeState.started (s : LifetimeState ExactDouble) : LifetimeState ExactDouble :=
  ⟨some .regtest, ⟨(openHistory s.history.db).2, ∅⟩⟩

/-- The state after an event. -/
def LifetimeState.next (s : LifetimeState ExactDouble) (event : MinerStatsEvent ExactDouble) :
    LifetimeState ExactDouble :=
  ⟨some .regtest, (applyEvent tableLib .regtest default event s.history).2⟩

/-- Alice's channel opens. -/
def aliceArrives : MinerStatsEvent ExactDouble :=
  .channelOpened 1 2 "standard".toList aliceAddress (.num 5) 10

/-- Alice's connection is gone. -/
def aliceLeaves : MinerStatsEvent ExactDouble := .downstreamClosed 1 25

/-- The state of a server with Alice connected. -/
def aliceConnected : LifetimeState ExactDouble := unusedDirectory.started.next aliceArrives

theorem run_aliceConnected :
    Run NewDatabase (LifetimeStep tableLib)
      [⟨unusedDirectory, .start .regtest, unusedDirectory.started⟩,
        ⟨unusedDirectory.started, .event aliceArrives default, aliceConnected⟩]
      aliceConnected :=
  ((Run.start ⟨rfl, rfl⟩).next (.start .regtest rfl)).next (.event aliceArrives default rfl)

/-- Alice leaves before the next server starts. -/
theorem timesFit_cleanStop :
    ∃ ts, Run NewDatabase (LifetimeStep tableLib) ts
        (aliceConnected.next aliceLeaves).started ∧
      ts = [⟨unusedDirectory, .start .regtest, unusedDirectory.started⟩,
        ⟨unusedDirectory.started, .event aliceArrives default, aliceConnected⟩,
        ⟨aliceConnected, .event aliceLeaves default, aliceConnected.next aliceLeaves⟩,
        ⟨aliceConnected.next aliceLeaves, .start .regtest,
          (aliceConnected.next aliceLeaves).started⟩] ∧
      ∀ t ∈ ts, TimesFit t.after := by
  have hrun := (run_aliceConnected.next (.event aliceLeaves default rfl)).next
    (LifetimeStep.start .regtest rfl)
  refine ⟨_, hrun, rfl, ?_⟩
  refine (timesFit_iff_findsNoneConnected tableLib hrun).2 ?_
  simp only [List.cons_append, List.nil_append, List.forall_mem_cons, List.not_mem_nil,
    false_implies, implies_true, and_true]
  refine ⟨fun m row hrow => ?_, trivial, trivial, fun m row hrow => ?_⟩
  · cases hrow
  · rw [AssocMap.lookup_eq_some] at hrow
    cases hrow with
    | head => decide
    | tail _ h => cases h

/-- **A crash.**  A server stops with Alice connected, and the next one starts: her
row is offline with a time of closing and no uptime. -/
theorem timesFit_fails_crash :
    ¬ ∀ ts s, Run NewDatabase (LifetimeStep (F := ExactDouble) tableLib) ts s →
      ∀ t ∈ ts, TimesFit t.after := by
  intro hall
  have hfit := hall _ _ (run_aliceConnected.next (.start .regtest rfl)) _
    (List.mem_append_right _ (List.mem_singleton.2 rfl))
  obtain ⟨c, o, -, -, -, hup⟩ :=
    (hfit (minerId .regtest aliceAddress "default".toList) _ rfl).offline rfl
  cases hup

end CanaryMining
