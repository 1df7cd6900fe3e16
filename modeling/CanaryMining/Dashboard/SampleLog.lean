import CanaryMining.Dashboard.System

/-!
# The samples of a run

Which rows the dashboard keeps as connected is decided by the answers of the monitoring
server alone: they are those of the last sample that was answered, of each worker id the
last one.  The log of a run says which sample that is for each poll, and what the registry
was when the poll took its snapshots.

## Main definitions

* `SampleLog`, `sampleLog` — what the polls have sampled and read, by the actions of a run.
* `ListsLast` — the channels that a sample lists last for a worker.
* `SampleLog.Agrees` — the polls hold what the log says, in every run.
-/

namespace CanaryMining

variable {Addr F : Type} [Double F] (lib : AddressLib Addr)
  (targetHexToDifficulty : Text → Option F)

/-- What the polls of the running server have sampled and read. -/
structure SampleLog (F : Type) where
  /-- What the monitoring server answered to each poll. -/
  items : AssocMap ℕ (Option (List (MonitoredClient F)))
  /-- The last sample that was merged of those that were answered. -/
  answered : Option (List (MonitoredClient F))
  /-- This last sample, when each poll had merged its own. -/
  merged : AssocMap ℕ (Option (List (MonitoredClient F)))
  /-- The registry and the time when each poll took its snapshots. -/
  read : AssocMap ℕ (MinerStatsRegistry F × UInt64)

omit [Double F] in
/-- The log of a server that has just started. -/
def SampleLog.new : SampleLog F := ⟨∅, none, ∅, ∅⟩

/-- The last answered sample after a poll has merged its own. -/
def SampleLog.answeredAfter (log : SampleLog F) (network : Network) (poll : ℕ) :
    Option (List (MonitoredClient F)) :=
  let items := (log.items.lookup poll).join
  if (fetchCurrentMiners lib targetHexToDifficulty network items).isSome then items
  else log.answered

/-- The log after a transition. -/
def SampleLog.next (log : SampleLog F)
    (t : Transition (DashboardState F) (DashboardAction F)) : SampleLog F :=
  match t.action with
  | .sample poll items => { log with items := log.items.insert poll items }
  | .merge poll _ =>
    let answered := log.answeredAfter lib targetHexToDifficulty t.before.network poll
    { log with answered := answered, merged := log.merged.insert poll answered }
  | .count poll _ =>
    { log with read := log.read.insert poll (t.before.registry, t.before.clock) }
  | .start _ => .new
  | _ => log

/-- **The log** of some transitions. -/
def sampleLog (ts : List (Transition (DashboardState F) (DashboardAction F))) : SampleLog F :=
  ts.foldl (SampleLog.next lib targetHexToDifficulty) .new

/-- A sample lists the channel, and no later one of the same worker. -/
def ListsLast (network : Network) (answered : Option (List (MonitoredClient F)))
    (key : ChannelKey) : Prop :=
  ∃ rows, fetchCurrentMiners lib targetHexToDifficulty network answered = some rows ∧
    ∃ id current, (rows.filter fun row => row.id = id).getLast? = some current ∧
      current.key = key

/-- Of some rows, those of the channels that a sample lists last are connected. -/
def ConnectedBy (network : Network) (answered : Option (List (MonitoredClient F)))
    (isRow : MinerRow F → Prop) : Prop :=
  ∀ key, (∃ row, isRow row ∧ row.connected = true ∧ row.key = key) ↔
    ListsLast lib targetHexToDifficulty network answered key

/-- **The polls hold** what the log says. -/
structure SampleLog.Agrees (log : SampleLog F) (s : DashboardState F) : Prop where
  sampled : ∀ p current, s.polls.lookup p = some (.sampled current) →
    current = fetchCurrentMiners lib targetHexToDifficulty s.network (log.items.lookup p).join
  seen : ConnectedBy lib targetHexToDifficulty s.network log.answered
    fun row => ∃ id, s.seenMiners.lookup id = some row
  merged : ∀ p rows, s.polls.lookup p = some (.merged rows) →
    ∃ answered, log.merged.lookup p = some answered ∧
      ConnectedBy lib targetHexToDifficulty s.network answered (· ∈ rows)
  counted : ∀ p rows stats now, s.polls.lookup p = some (.counted rows stats now) →
    ∃ answered registry order, log.merged.lookup p = some answered ∧
      ConnectedBy lib targetHexToDifficulty s.network answered (· ∈ rows) ∧
      log.read.lookup p = some (registry, now) ∧ stats = (registry.snapshots now order).2

variable {lib targetHexToDifficulty} {s s' : DashboardState F} {action : DashboardAction F}
  {log : SampleLog F} {network : Network}

theorem sampleLog_append_singleton
    (ts : List (Transition (DashboardState F) (DashboardAction F)))
    (t : Transition (DashboardState F) (DashboardAction F)) :
    sampleLog lib targetHexToDifficulty (ts ++ [t]) =
      (sampleLog lib targetHexToDifficulty ts).next lib targetHexToDifficulty t := by
  rw [sampleLog, List.foldl_append]
  rfl

/-- **After a merge** the connected rows are those of the sample that was merged, or, where
it was not answered, of the one before. -/
theorem ConnectedBy.merge {seen : SeenMiners F} {answered : Option (List (MonitoredClient F))}
    (h : ConnectedBy lib targetHexToDifficulty network answered
      fun row => ∃ id, seen.lookup id = some row)
    (items : Option (List (MonitoredClient F))) (now : UInt64) :
    ConnectedBy lib targetHexToDifficulty network
      (if (fetchCurrentMiners lib targetHexToDifficulty network items).isSome then items
        else answered)
      fun row => ∃ id, (mergeSeenMiners seen
        (fetchCurrentMiners lib targetHexToDifficulty network items) now).lookup id =
          some row := by
  cases hsample : fetchCurrentMiners lib targetHexToDifficulty network items with
  | none => exact h
  | some rows =>
    have hmem : ∀ row : MinerRow F,
        (∃ id, (mergeSeenMiners seen (some rows) now).lookup id = some row) ∧
          row.connected = true ↔
        ∃ id current, (rows.filter fun row => row.id = id).getLast? = some current ∧
          row = current.sampled now := by
      intro row
      have hsampled : row ∈ connectedMiners (mergeSeenMiners seen (some rows) now) default ∧
          row.connected = true ↔ _ := mem_connectedMiners_sampled hsample
      rwa [mem_connectedMiners] at hsampled
    intro key
    rw [Option.isSome_some, if_pos rfl]
    constructor
    · rintro ⟨row, hrow, hconnected, hkey⟩
      obtain ⟨id, current, hcurrent, rfl⟩ := (hmem row).1 ⟨hrow, hconnected⟩
      exact ⟨rows, hsample, id, current, hcurrent, hkey⟩
    · rintro ⟨rows', hsample', id, current, hcurrent, hkey⟩
      cases hsample.symm.trans hsample'
      obtain ⟨hrow, hconnected⟩ := (hmem _).2 ⟨id, current, hcurrent, rfl⟩
      exact ⟨_, hrow, hconnected, hkey⟩

/-- A server without rows has none connected. -/
theorem connectedBy_none {isRow : MinerRow F → Prop} (h : ∀ row, ¬ isRow row) :
    ConnectedBy lib targetHexToDifficulty network none isRow := by
  intro key
  constructor
  · rintro ⟨row, hrow, -⟩
    exact absurd hrow (h row)
  · rintro ⟨rows, hrows, -⟩
    cases hrows

theorem SampleLog.agrees_new (hseen : s.seenMiners = ∅) (hpolls : s.polls = ∅) :
    (SampleLog.new : SampleLog F).Agrees lib targetHexToDifficulty s := by
  refine ⟨fun p current hp => ?_, connectedBy_none ?_, fun p rows hp => ?_,
    fun p rows stats now hp => ?_⟩
  · rw [hpolls] at hp
    cases hp
  · rintro row ⟨id, hid⟩
    rw [hseen] at hid
    cases hid
  · rw [hpolls] at hp
    cases hp
  · rw [hpolls] at hp
    cases hp

/-- **What one step preserves.** -/
theorem SampleLog.Agrees.step (h : log.Agrees lib targetHexToDifficulty s)
    (hstep : DashboardStep lib targetHexToDifficulty s action s') :
    (log.next lib targetHexToDifficulty ⟨s, action, s'⟩).Agrees lib targetHexToDifficulty s' := by
  cases hstep with
  | tick now hle => exact ⟨h.sampled, h.seen, h.merged, h.counted⟩
  | call call => exact ⟨h.sampled, h.seen, h.merged, h.counted⟩
  | apply order event pending hpending => exact ⟨h.sampled, h.seen, h.merged, h.counted⟩
  | delete query => exact ⟨h.sampled, h.seen, h.merged, h.counted⟩
  | start network db hopen => exact agrees_new rfl rfl
  | sample p items hnew =>
    refine ⟨fun p' current hp' => ?_, h.seen, fun p' rows hp' => ?_,
      fun p' rows stats now hp' => ?_⟩
    all_goals rw [AssocMap.lookup_insert_if] at hp'
    · simp only [SampleLog.next, AssocMap.lookup_insert_if]
      split at hp'
      · rename_i heq
        cases hp'
        rw [if_pos heq]
        rfl
      · rename_i hne
        rw [if_neg hne]
        exact h.sampled p' current hp'
    · split at hp'
      · cases hp'
      · exact h.merged p' rows hp'
    · split at hp'
      · cases hp'
      · exact h.counted p' rows stats now hp'
  | merge p order current hp =>
    have hcurrent := h.sampled p current hp
    subst hcurrent
    have hseen := h.seen.merge (log.items.lookup p).join s.clock
    refine ⟨fun p' current hp' => ?_, hseen, fun p' rows hp' => ?_, fun p' rows stats now hp' => ?_⟩
    all_goals rw [AssocMap.lookup_insert_if] at hp'
    · split at hp'
      · cases hp'
      · exact h.sampled p' current hp'
    · simp only [SampleLog.next, AssocMap.lookup_insert_if]
      split at hp'
      · rename_i heq
        cases hp'
        rw [if_pos heq]
        refine ⟨_, rfl, ?_⟩
        simp only [mem_connectedMiners]
        exact hseen
      · rename_i hne
        rw [if_neg hne]
        exact h.merged p' rows hp'
    · simp only [SampleLog.next, AssocMap.lookup_insert_if]
      split at hp'
      · cases hp'
      · rename_i hne
        rw [if_neg hne]
        exact h.counted p' rows stats now hp'
  | count p order rows hp =>
    refine ⟨fun p' current hp' => ?_, h.seen, fun p' rows' hp' => ?_,
      fun p' rows' stats now hp' => ?_⟩
    all_goals rw [AssocMap.lookup_insert_if] at hp'
    · split at hp'
      · cases hp'
      · exact h.sampled p' current hp'
    · split at hp'
      · cases hp'
      · exact h.merged p' rows' hp'
    · simp only [SampleLog.next, AssocMap.lookup_insert_if]
      split at hp'
      · rename_i heq
        cases hp'
        subst heq
        obtain ⟨answered, hanswered, hrows⟩ := h.merged _ rows hp
        exact ⟨answered, s.registry, order, hanswered, hrows, if_pos rfl, rfl⟩
      · rename_i hne
        rw [if_neg hne]
        exact h.counted p' rows' stats now hp'
  | respond p rows stats now order statOrder workerOrder hp =>
    refine ⟨fun p' current hp' => ?_, h.seen, fun p' rows' hp' => ?_,
      fun p' rows' stats' now' hp' => ?_⟩
    all_goals
      rw [AssocMap.lookup_erase_if] at hp'
      split at hp'
      · cases hp'
    · exact h.sampled p' current hp'
    · exact h.merged p' rows' hp'
    · exact h.counted p' rows' stats' now' hp'

/-- **The polls hold what the log says**, in every run. -/
theorem sampleLog_agrees {ts : List (Transition (DashboardState F) (DashboardAction F))}
    (h : Run DashboardStart (DashboardStep lib targetHexToDifficulty) ts s) :
    (sampleLog lib targetHexToDifficulty ts).Agrees lib targetHexToDifficulty s := by
  induction h with
  | start hinit => exact SampleLog.agrees_new hinit.2.2.2.2.1 hinit.2.2.2.2.2
  | next _ hs ih =>
    rw [sampleLog_append_singleton]
    exact ih.step hs

end CanaryMining
