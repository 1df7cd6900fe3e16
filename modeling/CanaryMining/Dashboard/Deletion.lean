import CanaryMining.Dashboard.System
import CanaryMining.Lib.Run

/-!
# Deleted miners

A worker of the dashboard may come from the table of known miners, from a session of
the registry, or from the rows seen so far.  A deletion removes the row of the table
and nothing else: the registry keeps a closed session for seven days and the rows seen
are never pruned, so a deleted miner that was connected since the server started is
listed again by the next status response.

The invariant is that no source of the dashboard is shown as the deleted worker.

## Main definitions

* `NotListed`, `DeletesForGood`, `Forgotten` — which sources are free of a worker.
* `StaysDeleted` — no response shows the worker again.
* `staysDeleted_of_deletesForGood` — the condition under which it holds.
-/

namespace CanaryMining

variable {Addr F : Type} [Double F] (lib : AddressLib Addr)
  (targetHexToDifficulty : Text → Option F)

omit [Double F] in
/-- Nothing the dashboard reads, or may come to read, apart from the table of known
miners is shown as the worker `m`. -/
structure NotListed (m : Text) (s : DashboardState F) : Prop where
  seen : ∀ id row, s.seenMiners.lookup id = some row →
    workerIdOf lib s.network row.userIdentity ≠ m
  /-- A session of the worker has been closed for seven days. -/
  registry : ∀ key stats, s.registry.sessions.lookup key = some stats →
    stats.retained s.clock = true → workerIdOf lib s.network stats.userIdentity ≠ m
  pending : ∀ d c kind u hash t, MinerStatsEvent.channelOpened d c kind u hash t ∈ s.pending →
    workerIdOf lib s.network u ≠ m
  pollRows : ∀ p poll, s.polls.lookup p = some poll →
    ∀ row ∈ poll.rows, workerIdOf lib s.network row.userIdentity ≠ m
  pollStats : ∀ p poll, s.polls.lookup p = some poll →
    ∀ stat ∈ poll.stats, workerIdOf lib s.network stat.userIdentity ≠ m

omit [Double F] in
/-- The row of `m` is the only source of the worker `m`. -/
structure DeletesForGood (m : Text) (s : DashboardState F) : Prop extends NotListed lib m s where
  known : ∀ k row, s.history.db.knownMiners.lookup k = some row → k ≠ m →
    workerIdOf lib s.network row.userIdentity ≠ m

omit [Double F] in
/-- **The invariant.**  The worker `m` has no source. -/
structure Forgotten (m : Text) (s : DashboardState F) : Prop extends NotListed lib m s where
  known : s.history.db.knownMiners.All fun row => workerIdOf lib s.network row.userIdentity ≠ m

omit [Double F] in
/-- A channel of the miner `m` opens. -/
def OpensMiner (m : Text) (s : DashboardState F) : DashboardAction F → Prop
  | .call (.channelOpened _ _ _ u _) => minerIdFromIdentity lib s.network u = some m
  | _ => False

omit [Double F] in
/-- A step gives the worker `m` no new source other than by a channel of the miner `m`. -/
def KeepsDeleted (m : Text) (s : DashboardState F) : DashboardAction F → Prop
  | .call (.channelOpened _ _ _ u _) =>
    workerIdOf lib s.network u = m → minerIdFromIdentity lib s.network u = some m
  | .call (.channelClosed d c kind) => ∀ stats, s.registry.sessions.lookup ⟨d, c, kind⟩ =
      some stats → workerIdOf lib s.network stats.userIdentity ≠ m
  | .start network => s.history.db.knownMiners.All fun row =>
      workerIdOf lib network row.userIdentity ≠ m
  | _ => True

/-- The channels a sample lists are channels the registry lists. -/
def SampleConsistent (s : DashboardState F) : DashboardAction F → Prop
  | .sample _ items =>
    ∀ rows ∈ fetchCurrentMiners lib targetHexToDifficulty s.network items, ∀ row ∈ rows,
      ∃ key stats, s.registry.sessions.lookup key = some stats ∧ stats.retained s.clock = true ∧
        row.key = (key.downstreamId, key.channelId, key.channelKind.asStr) ∧
        row.userIdentity = stats.userIdentity
  | _ => True

/-- After a deletion of `m` whose later transitions are `ts`: unless a channel of the miner
opens, no response lists the worker. -/
def StaysDeleted (m : Text) (ts : List (Transition (DashboardState F) (DashboardAction F))) :
    Prop :=
  (∀ t ∈ ts, SampleConsistent lib targetHexToDifficulty t.before t.action) →
  (∀ t ∈ ts, ¬ OpensMiner lib m t.before t.action) →
  ∀ t ∈ ts, ∀ poll workers, t.action = .respond poll workers →
    ∀ worker ∈ workers, worker.workerId ≠ m

/-! ## The steps -/

section Steps

variable {lib targetHexToDifficulty} {m : Text} {s s' : DashboardState F}
  {action : DashboardAction F}

/-- After a call, the sessions listed are those listed before, and that of a channel
which is not shown as `m`. -/
theorem NotListed.call (h : NotListed lib m s) (call : RegistryCall F)
    (hkeeps : KeepsDeleted lib m s (.call call)) (hopens : ¬ OpensMiner lib m s (.call call)) :
    NotListed lib m { s with
      registry := (call.run s.clock s.registry).1
      pending := s.pending ++ (call.run s.clock s.registry).2 } := by
  have hopened : ∀ d c kind u hash, call = .channelOpened d c kind u hash →
      workerIdOf lib s.network u ≠ m := by
    rintro d c kind u hash rfl hu
    exact hopens (hkeeps hu)
  refine ⟨h.seen, fun key stats hstats hretained => ?_, fun d c kind u hash t hmem => ?_,
    h.pollRows, h.pollStats⟩
  · rcases RegistryCall.lookup_run hstats with ⟨hash, hcall, -⟩ | ⟨old, hold, huser, htimes⟩
    · exact hopened _ _ _ _ _ hcall
    · rw [huser]
      rcases htimes with hsame | ⟨-, hopen | rfl⟩
      · refine h.registry key old hold ?_
        unfold MinerSessionStats.retained at hretained ⊢
        rw [← hsame]
        exact hretained
      · refine h.registry key old hold ?_
        unfold MinerSessionStats.retained
        rw [hopen]
      · exact hkeeps old hold
  · rcases List.mem_append.1 hmem with hmem | hmem
    · exact h.pending d c kind u hash t hmem
    · obtain ⟨kind', hcall⟩ := RegistryCall.opened_of_mem_run hmem
      exact hopened _ _ _ _ _ hcall

omit [Double F] in
/-- A poll that goes on to its next stage. -/
theorem NotListed.polls (h : NotListed lib m s) (p : ℕ) (poll : Poll F)
    (hrows : ∀ row ∈ poll.rows, workerIdOf lib s.network row.userIdentity ≠ m)
    (hstats : ∀ stat ∈ poll.stats, workerIdOf lib s.network stat.userIdentity ≠ m) :
    NotListed lib m { s with polls := s.polls.insert p poll } := by
  refine ⟨h.seen, h.registry, h.pending, fun p' poll' hp => ?_, fun p' poll' hp => ?_⟩
  · rw [AssocMap.lookup_insert_if] at hp
    by_cases heq : p' = p
    · rw [if_pos heq, Option.some.injEq] at hp
      exact hp ▸ hrows
    · rw [if_neg heq] at hp
      exact h.pollRows p' poll' hp
  · rw [AssocMap.lookup_insert_if] at hp
    by_cases heq : p' = p
    · rw [if_pos heq, Option.some.injEq] at hp
      exact hp ▸ hstats
    · rw [if_neg heq] at hp
      exact h.pollStats p' poll' hp

omit [Double F] in
/-- A server that has just started reads nothing but its database. -/
theorem notListed_started (network : Network) (clock : UInt64) (history : HistoryState F) :
    NotListed lib m ⟨network, clock, .new, [], history, ∅, ∅⟩ :=
  ⟨nofun, nofun, nofun, nofun, nofun⟩

/-- The event the writer takes opens no channel shown as `m`, so it makes no row that is. -/
theorem Forgotten.apply (h : Forgotten lib m s) (order : SessionOrder)
    {event : MinerStatsEvent F} {pending : List (MinerStatsEvent F)}
    (hpending : s.pending = event :: pending) :
    Forgotten lib m { s with
      pending := pending
      history := (applyEvent lib s.network order event s.history).2 } := by
  have hmem : ∀ e ∈ pending, e ∈ s.pending := fun e he => hpending ▸ List.mem_cons_of_mem _ he
  refine ⟨⟨h.seen, h.registry, fun d c kind u hash t he => h.pending d c kind u hash t (hmem _ he),
    h.pollRows, h.pollStats⟩, ?_⟩
  refine applyEvent_all lib h.known ?_ (fun _ _ hrow => hrow) (fun _ _ _ _ _ hrow => hrow)
    fun _ _ _ hrow => hrow
  rintro d c kind u hash t rfl old identity
  exact h.pending d c kind u hash t (hpending ▸ List.mem_cons_self)

/-- **What one step preserves.** -/
theorem Forgotten.step (h : Forgotten lib m s)
    (hstep : DashboardStep lib targetHexToDifficulty s action s')
    (hsample : SampleConsistent lib targetHexToDifficulty s action)
    (hopens : ¬ OpensMiner lib m s action) (hkeeps : KeepsDeleted lib m s action) :
    Forgotten lib m s' := by
  cases hstep with
  | tick now hle =>
    refine ⟨⟨h.seen, fun key stats hstats hretained => ?_, h.pending, h.pollRows, h.pollStats⟩,
      h.known⟩
    exact h.registry key stats hstats (MinerSessionStats.retained_of_le hle hretained)
  | call call => exact ⟨h.toNotListed.call call hkeeps hopens, h.known⟩
  | apply order event pending hpending => exact h.apply order hpending
  | delete query =>
    exact ⟨⟨h.seen, h.registry, h.pending, h.pollRows, h.pollStats⟩,
      apiDeleteMiner_all query h.known⟩
  | sample p items hnew =>
    refine ⟨h.toNotListed.polls p _ (fun row hrow => ?_) nofun, h.known⟩
    cases hrows : fetchCurrentMiners lib targetHexToDifficulty s.network items with
    | none => simp [Poll.rows, hrows] at hrow
    | some rows =>
      rw [Poll.rows, hrows, Option.getD_some] at hrow
      obtain ⟨key, stats, hstats, hretained, -, huser⟩ := hsample rows hrows row hrow
      rw [huser]
      exact h.registry key stats hstats hretained
  | merge p order currentMiners hp =>
    have hcurrent : ∀ rows ∈ currentMiners, ∀ row ∈ rows,
        workerIdOf lib s.network row.userIdentity ≠ m := by
      intro rows hrows row hrow
      refine h.pollRows p _ hp row ?_
      rw [Poll.rows, Option.mem_def.1 hrows]
      exact hrow
    have hseen : ∀ id row, (mergeSeenMiners s.seenMiners currentMiners s.clock).lookup id =
        some row → workerIdOf lib s.network row.userIdentity ≠ m := by
      intro id row hrow
      exact userIdentity_of_mergeSeenMiners (P := fun u => workerIdOf lib s.network u ≠ m)
        h.seen hcurrent hrow
    have hrows : ∀ row ∈ connectedMiners (mergeSeenMiners s.seenMiners currentMiners s.clock)
        order, workerIdOf lib s.network row.userIdentity ≠ m := by
      intro row hrow
      obtain ⟨id, hid⟩ := mem_connectedMiners.1 hrow
      exact hseen id row hid
    have hpolls := h.toNotListed.polls p (.merged _) hrows nofun
    exact ⟨⟨hseen, hpolls.registry, hpolls.pending, hpolls.pollRows, hpolls.pollStats⟩, h.known⟩
  | count p order rows hp =>
    have hstats : ∀ stat ∈ (s.registry.snapshots s.clock order).2,
        workerIdOf lib s.network stat.userIdentity ≠ m := by
      intro stat hstat
      obtain ⟨key, stats, hstats, hretained, rfl⟩ := MinerStatsRegistry.mem_snapshots.1 hstat
      exact h.registry key stats hstats hretained
    have hpolls := h.toNotListed.polls p (.counted rows _ s.clock)
      (fun row hrow => h.pollRows p (.merged rows) hp row hrow) hstats
    refine ⟨⟨h.seen, fun key stats hstats hretained => ?_, hpolls.pending, hpolls.pollRows,
      hpolls.pollStats⟩, h.known⟩
    simp only [MinerStatsRegistry.snapshots, AssocMap.lookup_retain,
      Option.filter_eq_some_iff] at hstats
    exact h.registry key stats hstats.1 hretained
  | respond p rows stats now order statOrder workerOrder hp =>
    have hknown := (readMiners_spec s.history.db order).1
    refine ⟨⟨h.seen, h.registry, h.pending, fun p' poll hp' => ?_, fun p' poll hp' => ?_⟩, ?_⟩
    · rw [AssocMap.lookup_erase_if] at hp'
      split at hp'
      · cases hp'
      · exact h.pollRows p' poll hp'
    · rw [AssocMap.lookup_erase_if] at hp'
      split at hp'
      · cases hp'
      · exact h.pollStats p' poll hp'
    · intro k row hrow
      rw [hknown] at hrow
      exact h.known k row hrow
  | start network db hopen =>
    refine ⟨notListed_started _ _ _, fun k row hrow => ?_⟩
    rw [lookup_of_openHistory hopen, Option.map_eq_some_iff] at hrow
    obtain ⟨old, hold, rfl⟩ := hrow
    exact hkeeps k old hold

/-- A deletion that meets its condition leaves the worker without a source. -/
theorem DeletesForGood.forgotten {query : Text} (h : DeletesForGood lib query.trim s)
    (hstep : DashboardStep lib targetHexToDifficulty s (.delete query (.ok true)) s') :
    Forgotten lib query.trim s' := by
  generalize hresponse : DashboardAction.delete query (.ok true) = a at hstep
  cases hstep with
  | delete query' =>
    injection hresponse with hquery hanswer
    subst hquery
    obtain ⟨-, hlookup⟩ := apiDeleteMiner_eq_deleted (Prod.ext hanswer.symm rfl)
    refine ⟨⟨h.seen, h.registry, h.pending, h.pollRows, h.pollStats⟩, fun k row hrow => ?_⟩
    rw [hlookup] at hrow
    by_cases hk : k = query.trim
    · rw [if_pos hk] at hrow
      cases hrow
    · rw [if_neg hk] at hrow
      exact h.known k row hrow hk
  | _ => cases hresponse

/-- A response lists no worker without a source. -/
theorem Forgotten.not_listed (h : Forgotten lib m s) {poll : ℕ} {workers : List (MinerWorker F)}
    (hstep : DashboardStep lib targetHexToDifficulty s (.respond poll workers) s') :
    ∀ worker ∈ workers, worker.workerId ≠ m := by
  generalize hresponse : DashboardAction.respond poll workers = a at hstep
  cases hstep with
  | respond p rows stats now order statOrder workerOrder hp =>
    injection hresponse with hpoll hworkers
    subst hpoll hworkers
    refine forall_workerId_buildMinerWorkers (P := (· ≠ m)) (h.pollRows _ _ hp)
      (h.pollStats _ _ hp) fun miner hminer => ?_
    obtain ⟨k, row, hrow, rfl⟩ := (readMiners_spec s.history.db order).2 miner hminer
    exact h.known k row hrow
  | _ => cases hresponse

end Steps

/-- **A deletion for good.**  When the row is the only source of its worker, no later
response lists the worker, whatever else the server does, as long as no other source of
it appears. -/
theorem staysDeleted_of_deletesForGood
    {ts ts' : List (Transition (DashboardState F) (DashboardAction F))}
    {s s' final : DashboardState F} {query : Text}
    (hrun : Run DashboardStart (DashboardStep lib targetHexToDifficulty)
      (ts ++ ⟨s, .delete query (.ok true), s'⟩ :: ts') final)
    (hdelete : DeletesForGood lib query.trim s)
    (hkeeps : ∀ t ∈ ts', KeepsDeleted lib query.trim t.before t.action) :
    StaysDeleted lib targetHexToDifficulty query.trim ts' := by
  intro hsample hopens t ht poll workers hresponse
  obtain ⟨mid, -, hrest⟩ := hrun.split
  obtain ⟨-, hdeletes, hafter⟩ := hrest.tail
  have hforgotten : ∀ x, x = s' → Forgotten lib query.trim x := by
    intro x hx
    rw [hx]
    exact hdelete.forgotten hdeletes
  have hkept : ∀ x a x', Forgotten lib query.trim x →
      DashboardStep lib targetHexToDifficulty x a x' →
      SampleConsistent lib targetHexToDifficulty x a ∧ ¬ OpensMiner lib query.trim x a ∧
        KeepsDeleted lib query.trim x a → Forgotten lib query.trim x' :=
    fun x a x' h hs hok => h.step hs hok.1 hok.2.1 hok.2.2
  have hall := hafter.forall_transition_of
    (P := fun t => SampleConsistent lib targetHexToDifficulty t.before t.action ∧
      ¬ OpensMiner lib query.trim t.before t.action ∧
        KeepsDeleted lib query.trim t.before t.action)
    hforgotten hkept fun t ht => ⟨hsample t ht, hopens t ht, hkeeps t ht⟩
  obtain ⟨hbefore, hstep, -⟩ := hall t ht
  rw [hresponse] at hstep
  exact hbefore.not_listed hstep

/-! ## One miner that comes, goes and is deleted -/

/-- The worker Alice is shown as. -/
def aliceWorker : Text := minerId .regtest aliceAddress "default".toList

/-- A server that has just started on a new data directory. -/
def newDashboard : DashboardState ExactDouble :=
  ⟨.regtest, 10, .new, [], ⟨(openHistory ⟨∅, []⟩).2, ∅⟩, ∅, ∅⟩

/-- The server after a call and the event of it. -/
def DashboardState.recorded (s : DashboardState ExactDouble) (call : RegistryCall ExactDouble)
    (event : MinerStatsEvent ExactDouble) : DashboardState ExactDouble :=
  { s with
    registry := (call.run s.clock s.registry).1
    history := (applyEvent tableLib s.network default event s.history).2 }

/-- Alice's channel is open. -/
def aliceOnline : DashboardState ExactDouble :=
  newDashboard.recorded (.channelOpened 1 2 .standard aliceAddress (.num 5))
    (.channelOpened 1 2 "standard".toList aliceAddress (.num 5) 10)

/-- Alice's channel is closed again. -/
def aliceOffline : DashboardState ExactDouble :=
  aliceOnline.recorded (.channelClosed 1 2 .standard) (.channelClosed 1 2 "standard".toList 10)

/-- The next server on Alice's row. -/
def aliceKnown : DashboardState ExactDouble :=
  ⟨.regtest, 10, .new, [], ⟨(openHistory aliceOffline.history.db).2, ∅⟩, ∅, ∅⟩

/-- The server after the deletion of Alice. -/
def DashboardState.aliceDeleted (s : DashboardState ExactDouble) : DashboardState ExactDouble :=
  { s with history := { s.history with db := (apiDeleteMiner aliceWorker s.history.db).2 } }

/-- The server with a poll under way. -/
def DashboardState.polling (s : DashboardState ExactDouble) (poll : Poll ExactDouble) :
    DashboardState ExactDouble :=
  { s with polls := AList.insert 0 poll ∅ }

/-- The workers a poll lists when the monitoring server does not answer. -/
def DashboardState.listed (s : DashboardState ExactDouble) : List (MinerWorker ExactDouble) :=
  buildMinerWorkers tableLib s.network s.clock (some (connectedMiners s.seenMiners default))
    (s.registry.snapshots s.clock default).2 (readMiners s.history.db default).1 default default

/-- The transitions of such a poll. -/
def DashboardState.pollSteps (s : DashboardState ExactDouble) :
    List (Transition (DashboardState ExactDouble) (DashboardAction ExactDouble)) :=
  let rows := connectedMiners s.seenMiners default
  let counted := { s with registry := (s.registry.snapshots s.clock default).1 }.polling
    (.counted rows (s.registry.snapshots s.clock default).2 s.clock)
  [⟨s, .sample 0 none, s.polling (.sampled none)⟩,
    ⟨s.polling (.sampled none), .merge 0 default, s.polling (.merged rows)⟩,
    ⟨s.polling (.merged rows), .count 0 default, counted⟩,
    ⟨counted, .respond 0 s.listed,
      { counted with
        history := { s.history with db := (readMiners s.history.db default).2 }
        polls := ∅ }⟩]

theorem run_pollSteps {s : DashboardState ExactDouble} (hpolls : s.polls = ∅) :
    ∃ final, Run (fun s' => s' = s) (DashboardStep tableLib fun _ => none) s.pollSteps final := by
  obtain ⟨network, clock, registry, pending, history, seenMiners, polls⟩ := s
  cases hpolls
  exact ⟨_, .cons (.sample 0 none rfl) <| .cons (.merge 0 default none rfl) <|
    .cons (.count 0 default _ rfl) <| .cons (.respond 0 _ _ _ default default default rfl) <|
    .start rfl⟩

theorem respond_mem_pollSteps (s : DashboardState ExactDouble) :
    ∃ t ∈ s.pollSteps, t.action = .respond 0 s.listed :=
  ⟨_, List.mem_of_getLast? rfl, rfl⟩

theorem connectedMiners_empty (order : IterOrder (MinerRow ExactDouble)) :
    connectedMiners ∅ order = [] := by
  rw [List.eq_nil_iff_forall_not_mem]
  intro row hrow
  obtain ⟨id, hid⟩ := mem_connectedMiners.1 hrow
  cases hid

theorem run_aliceOffline : ∃ ts, Run DashboardStart
    (DashboardStep (F := ExactDouble) tableLib fun _ => none) ts aliceOffline :=
  ⟨_, (((Run.start ⟨rfl, rfl, rfl, rfl, rfl, rfl⟩).next
    (.start (s := ⟨.regtest, 10, .new, [], ⟨⟨∅, []⟩, ∅⟩, ∅, ∅⟩) .regtest _ rfl)).next
    (.call (.channelOpened 1 2 .standard aliceAddress (.num 5)))).next (.apply default _ _ rfl)
    |>.next (.call (.channelClosed 1 2 .standard)) |>.next (.apply default _ _ rfl)⟩

/-- The deletion reports that Alice's row was deleted. -/
theorem step_aliceDeleted {s : DashboardState ExactDouble}
    (h : (apiDeleteMiner aliceWorker s.history.db).1 = .ok true) :
    DashboardStep tableLib (fun _ => none) s (.delete aliceWorker (.ok true)) s.aliceDeleted := by
  have hstep : DashboardStep tableLib (fun _ => none) s _ s.aliceDeleted := .delete aliceWorker
  rw [h] at hstep
  exact hstep

theorem staysDeleted_aliceKnown :
    StaysDeleted tableLib (fun _ => none) aliceWorker.trim aliceKnown.aliceDeleted.pollSteps := by
  obtain ⟨ts, hrun⟩ := run_aliceOffline
  obtain ⟨final, hpoll⟩ := run_pollSteps (s := aliceKnown.aliceDeleted) rfl
  have hstart : DashboardStep tableLib (fun _ => none) aliceOffline (.start .regtest) aliceKnown :=
    .start .regtest _ rfl
  have hdeletes := step_aliceDeleted (s := aliceKnown) (by decide +kernel)
  have hall := (hrun.next hstart).append (.cons hdeletes hpoll)
  refine staysDeleted_of_deletesForGood tableLib (fun _ => none) hall ?_ ?_
  · refine ⟨notListed_started _ _ _, fun k row hrow hk => ?_⟩
    rw [AssocMap.lookup_eq_some] at hrow
    cases hrow with
    | head => exact absurd (by decide +kernel) hk
    | tail _ h => cases h
  · simp [DashboardState.pollSteps, KeepsDeleted]

/-- **A deleted miner comes back.**  Alice's channel is closed and her row deleted; the
next response lists her from the session the registry still keeps. -/
theorem staysDeleted_fails_closedSession :
    ¬ ∀ ts ts' (s s' final : DashboardState ExactDouble) query,
      Run DashboardStart (DashboardStep tableLib fun _ => none)
        (ts ++ ⟨s, .delete query (.ok true), s'⟩ :: ts') final →
      StaysDeleted tableLib (fun _ => none) query.trim ts' := by
  intro hall
  obtain ⟨ts, hrun⟩ := run_aliceOffline
  obtain ⟨final, hpoll⟩ := run_pollSteps (s := aliceOffline.aliceDeleted) rfl
  have hdeletes := step_aliceDeleted (s := aliceOffline) (by decide +kernel)
  have hgone := hall _ _ _ _ _ _ (hrun.append (.cons hdeletes hpoll))
  have hlisted : ∃ worker ∈ aliceOffline.aliceDeleted.listed, worker.workerId = aliceWorker := by
    have hseen : aliceOffline.aliceDeleted.seenMiners = ∅ := rfl
    rw [DashboardState.listed, exists_worker_iff, hseen, connectedMiners_empty]
    decide +kernel
  obtain ⟨worker, hworker, hid⟩ := hlisted
  obtain ⟨t, ht, hresponse⟩ := respond_mem_pollSteps aliceOffline.aliceDeleted
  refine hgone ?_ ?_ t ht 0 _ hresponse worker hworker ?_
  · simp [DashboardState.pollSteps, SampleConsistent, fetchCurrentMiners]
  · simp [DashboardState.pollSteps, OpensMiner]
  · rw [hid]
    decide +kernel

end CanaryMining
