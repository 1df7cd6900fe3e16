import CanaryMining.Dashboard.Aggregation
import CanaryMining.Lib.StableSort

/-!
# The order of the dashboard

`build_miner_workers` iterates over two hash maps: the snapshots no row took, and the
workers.  Both results are sorted, sessions within a worker and workers among themselves,
and a worker is named after the first session pushed into it.  The sorts are stable, so the
iteration order shows wherever two elements tie.

## Main definitions

* `groupOf` — the sessions pushed into one worker.
* `SameRank` — two workers tie in the order of the workers.
* `OrderFree` — nothing that the iteration orders change ties or comes first.
* `orderIndependent_iff_orderFree` — the list depends on no order exactly if this holds.
-/

namespace CanaryMining

variable {Addr F : Type} [Double F] (lib : AddressLib Addr) (network : Network) (now : UInt64)

omit [Double F] in
/-- The sessions that are pushed into the worker of an id. -/
def groupOf (pushed : List (PushedSession F)) (id : Text) : List (PushedSession F) :=
  pushed.filter fun p => p.workerId lib network = id

omit [Double F] in
/-- The sessions whose times a worker shows: the connected ones if there are any. -/
def displayedSessions (sessions : List (MinerSession F)) : List (MinerSession F) :=
  if sessions.any (·.connected) then sessions.filter (·.connected) else sessions

omit [Double F] in
/-- The time since the displayed sessions were last seen, the longest if they never were. -/
def ageOf (sessions : List (MinerSession F)) : UInt64 :=
  ((displayedSessions sessions).filterMap (·.lastSeenSeconds)).min?.getD (.ofNat (2 ^ 64 - 1))

omit [Double F] in
/-- Two workers tie: they are connected alike, last seen at the same time, and have the same
label and address, which are those of the first session of each. -/
structure SameRank (group group' : List (PushedSession F)) : Prop where
  connected : group.any (·.session.connected) = group'.any (·.session.connected)
  age : ageOf (group.map (·.session)) = ageOf (group'.map (·.session))
  identity : group.head?.map (fun p => displayIdentity lib network p.userIdentity) =
    group'.head?.map fun p => displayIdentity lib network p.userIdentity

/-- Nothing that the iteration orders change ties or comes first. -/
structure OrderFree (rows : List (MinerRow F)) (stats : List (MinerSessionSnapshot F))
    (knownMiners : List (KnownMiner F)) : Prop where
  /-- Of the snapshots without a row, no two of one worker tie among its sessions. -/
  sessions : ∀ s ∈ unjoinedStats rows stats, ∀ t ∈ unjoinedStats rows stats,
    workerIdOf lib network s.userIdentity = workerIdOf lib network t.userIdentity →
    s.closedAt.isNone = t.closedAt.isNone → s.downstreamId = t.downstreamId →
    s.channelId = t.channelId → s = t
  /-- Those of a worker without a row name it alike. -/
  identities : ∀ s ∈ unjoinedStats rows stats, ∀ t ∈ unjoinedStats rows stats,
    workerIdOf lib network s.userIdentity = workerIdOf lib network t.userIdentity →
    (∀ row ∈ rows, workerIdOf lib network row.userIdentity ≠
      workerIdOf lib network s.userIdentity) →
    s.userIdentity = t.userIdentity
  /-- No two workers tie. -/
  workers : ∀ p ∈ sources lib network now rows stats knownMiners default,
    ∀ q ∈ sources lib network now rows stats knownMiners default,
    SameRank lib network
      (groupOf lib network (sources lib network now rows stats knownMiners default)
        (p.workerId lib network))
      (groupOf lib network (sources lib network now rows stats knownMiners default)
        (q.workerId lib network)) →
    p.workerId lib network = q.workerId lib network

variable {lib network now}

/-! ## The comparisons -/

section Compare

omit [Double F]

instance : Std.TransCmp (compareSessions (F := F)) :=
  inferInstanceAs <| Std.TransCmp <|
    compareLex (fun left right : MinerSession F => compareOn (·.connected) right left) <|
      compareLex (compareOn (·.clientId)) (compareOn (·.channelId))

instance : Std.TransCmp (compareWorkers (F := F)) :=
  inferInstanceAs <| Std.TransCmp <|
    compareLex (fun left right : MinerWorker F => compareOn (·.activeOnTemplate) right left) <|
      compareLex (fun left right : MinerWorker F => compareOn (·.connected) right left) <|
        compareLex (compareOn (·.lastSeenSeconds.getD (.ofNat (2 ^ 64 - 1)))) <|
          compareLex (compareOn (·.label)) (compareOn (·.payoutAddress))

/-- Which sessions tie. -/
theorem compareSessions_eq_iff {left right : MinerSession F} :
    compareSessions left right = .eq ↔ left.connected = right.connected ∧
      left.clientId = right.clientId ∧ left.channelId = right.channelId := by
  simp only [compareSessions, Ordering.then_eq_eq, Std.LawfulEqOrd.compare_eq_iff_eq]
  rw [eq_comm]

/-- Which workers tie. -/
theorem compareWorkers_eq_iff {left right : MinerWorker F} :
    compareWorkers left right = .eq ↔
      left.activeOnTemplate = right.activeOnTemplate ∧ left.connected = right.connected ∧
      left.lastSeenSeconds.getD (.ofNat (2 ^ 64 - 1)) =
        right.lastSeenSeconds.getD (.ofNat (2 ^ 64 - 1)) ∧
      left.label = right.label ∧ left.payoutAddress = right.payoutAddress := by
  simp only [compareWorkers, Ordering.then_eq_eq, Std.LawfulEqOrd.compare_eq_iff_eq]
  rw [eq_comm, eq_comm (a := right.connected)]

end Compare

/-! ## Finalized workers -/

/-- The least value of some elements does not depend on how the least element is found. -/
theorem bind_minOn? {α : Type} (g : α → Option UInt64) (l : List α) :
    ((l.filter fun x => (g x).isSome).minOn? fun x => (g x).getD 0).bind g =
      (l.filterMap g).min? := by
  cases hmin : (l.filter fun x => (g x).isSome).minOn? fun x => (g x).getD 0 with
  | none =>
    have hnil : l.filter (fun x => (g x).isSome) = [] := by
      by_contra hne
      have hsome : ((l.filter fun x => (g x).isSome).minOn? fun x => (g x).getD 0).isSome :=
        List.isSome_minOn?_iff.2 hne
      rw [hmin] at hsome
      cases hsome
    have hmap : l.filterMap g = [] := by
      rw [List.filterMap_eq_nil_iff]
      intro x hx
      simpa using List.filter_eq_nil_iff.1 hnil x hx
    rw [hmap]
    rfl
  | some x =>
    have hx := List.mem_filter.1 (List.minOn?_mem hmin)
    obtain ⟨v, hv⟩ := Option.isSome_iff_exists.1 hx.2
    rw [Option.bind_some, hv, eq_comm, List.min?_eq_some_iff]
    refine ⟨List.mem_filterMap.2 ⟨x, hx.1, hv⟩, fun w hw => ?_⟩
    obtain ⟨y, hy, hyw⟩ := List.mem_filterMap.1 hw
    have hmem : y ∈ l.filter fun x => (g x).isSome :=
      List.mem_filter.2 ⟨hy, by rw [hyw]; rfl⟩
    have hle := List.apply_get_minOn?_le_of_mem (f := fun x => (g x).getD 0) hmem
    simpa [hmin, hv, hyw] using hle

theorem min?_eq_of_perm {l l' : List UInt64} (h : l.Perm l') : l.min? = l'.min? := by
  refine Option.ext fun v => ?_
  rw [List.min?_eq_some_iff, List.min?_eq_some_iff]
  simp only [h.mem_iff]

omit [Double F] in
theorem displayedSessions_perm {sessions sessions' : List (MinerSession F)}
    (h : sessions.Perm sessions') :
    (displayedSessions sessions).Perm (displayedSessions sessions') := by
  rw [displayedSessions, displayedSessions, h.any_eq]
  split
  · exact h.filter _
  · exact h

/-- The time since a worker was last seen is the least of its displayed sessions. -/
theorem lastSeenSeconds_finalizeWorker (worker : MinerWorker F) :
    (finalizeWorker worker).lastSeenSeconds =
      ((displayedSessions worker.sessions).filterMap (·.lastSeenSeconds)).min? := by
  have hsorted : (StableSort.sort compareSessions worker.sessions).Perm worker.sessions :=
    StableSort.sort_perm _ _
  have hdisplayed : ∀ sessions : List (MinerSession F),
      (if (sessions.filter (·.connected)).isEmpty then sessions
        else sessions.filter (·.connected)) = displayedSessions sessions := by
    intro sessions
    rw [displayedSessions]
    cases hany : sessions.any (·.connected) with
    | false =>
      have hnil : sessions.filter (·.connected) = [] := by
        rw [List.filter_eq_nil_iff]
        exact List.any_eq_false.1 hany
      rw [hnil]
      rfl
    | true =>
      obtain ⟨session, hsession, hconnected⟩ := List.any_eq_true.1 hany
      have hne : sessions.filter (·.connected) ≠ [] :=
        List.ne_nil_of_mem (List.mem_filter.2 ⟨hsession, hconnected⟩)
      rw [if_neg (by simpa using hne), if_pos rfl]
  have hbind : (finalizeWorker worker).lastSeenSeconds =
      ((displayedSessions (StableSort.sort compareSessions worker.sessions)).filterMap
        (·.lastSeenSeconds)).min? := by
    rw [← hdisplayed]
    exact bind_minOn? MinerSession.lastSeenSeconds _
  rw [hbind]
  exact min?_eq_of_perm ((displayedSessions_perm hsorted).filterMap _)

/-- A worker is connected if one of its sessions is. -/
theorem connected_finalizeWorker (worker : MinerWorker F) :
    (finalizeWorker worker).connected = worker.sessions.any (·.connected) :=
  (StableSort.sort_perm compareSessions worker.sessions).any_eq

/-- A worker is active if it is connected or was seen recently enough. -/
theorem activeOnTemplate_finalizeWorker (worker : MinerWorker F) :
    (finalizeWorker worker).activeOnTemplate = ((finalizeWorker worker).connected ||
      (finalizeWorker worker).lastSeenSeconds.any (· ≤ activeMinerGraceSeconds)) :=
  rfl

/-- Recently enough is less than the longest time there is. -/
theorem any_le_grace_eq {age age' : Option UInt64}
    (h : age.getD (.ofNat (2 ^ 64 - 1)) = age'.getD (.ofNat (2 ^ 64 - 1))) :
    age.any (· ≤ activeMinerGraceSeconds) = age'.any (· ≤ activeMinerGraceSeconds) := by
  have hany : ∀ o : Option UInt64, o.any (· ≤ activeMinerGraceSeconds) =
      decide (o.getD (.ofNat (2 ^ 64 - 1)) ≤ activeMinerGraceSeconds) := by
    intro o
    cases o with
    | none => decide
    | some v => rfl
  rw [hany, hany, h]

/-- **Which workers tie.** -/
theorem compareWorkers_finalizeWorker {group group' : List (PushedSession F)}
    {first first' : PushedSession F} (hfirst : group.head? = some first)
    (hfirst' : group'.head? = some first') :
    compareWorkers
        (finalizeWorker (groupWorker lib network first (group.map (·.session))))
        (finalizeWorker (groupWorker lib network first' (group'.map (·.session)))) = .eq ↔
      SameRank lib network group group' := by
  have hany : ∀ l : List (PushedSession F), (l.map (·.session)).any (·.connected) =
      l.any (·.session.connected) := fun l => by rw [List.any_map]; rfl
  have hage : ∀ worker : MinerWorker F, (finalizeWorker worker).lastSeenSeconds.getD
      (.ofNat (2 ^ 64 - 1)) = ageOf worker.sessions := by
    intro worker
    rw [lastSeenSeconds_finalizeWorker, ageOf]
  rw [compareWorkers_eq_iff]
  constructor
  · rintro ⟨-, hconnected, hseen, hlabel, haddress⟩
    rw [connected_finalizeWorker, connected_finalizeWorker] at hconnected
    rw [hage, hage] at hseen
    refine ⟨?_, hseen, ?_⟩
    · rw [← hany, ← hany]
      exact hconnected
    · rw [hfirst, hfirst', Option.map_some, Option.map_some]
      exact congrArg some (Prod.ext hlabel haddress)
  · rintro ⟨hconnected, hseen, hidentity⟩
    rw [hfirst, hfirst', Option.map_some, Option.map_some, Option.some.injEq] at hidentity
    rw [← hany, ← hany] at hconnected
    have hsame : (finalizeWorker (groupWorker lib network first
        (group.map (·.session)))).connected = (finalizeWorker (groupWorker lib network first'
          (group'.map (·.session)))).connected := by
      rw [connected_finalizeWorker, connected_finalizeWorker]
      exact hconnected
    have hages : (finalizeWorker (groupWorker lib network first
          (group.map (·.session)))).lastSeenSeconds.getD (.ofNat (2 ^ 64 - 1)) =
        (finalizeWorker (groupWorker lib network first'
          (group'.map (·.session)))).lastSeenSeconds.getD (.ofNat (2 ^ 64 - 1)) := by
      rw [hage, hage]
      exact hseen
    refine ⟨?_, hsame, hages, congrArg Prod.fst hidentity, congrArg Prod.snd hidentity⟩
    rw [activeOnTemplate_finalizeWorker, activeOnTemplate_finalizeWorker, hsame,
      any_le_grace_eq hages]

/-- Two groups make the same worker exactly if they name it alike and their sessions are
sorted alike. -/
theorem finalizeWorker_groupWorker_eq_iff {first first' : PushedSession F}
    {sessions sessions' : List (MinerSession F)} :
    finalizeWorker (groupWorker lib network first sessions) =
        finalizeWorker (groupWorker lib network first' sessions') ↔
      first.userIdentity = first'.userIdentity ∧
        StableSort.sort compareSessions sessions = StableSort.sort compareSessions sessions' := by
  constructor
  · intro h
    exact ⟨congrArg MinerWorker.userIdentity h, congrArg MinerWorker.sessions h⟩
  · rintro ⟨hidentity, hsessions⟩
    have hnamed : groupWorker lib network first sessions =
        groupWorker lib network first' sessions := by
      simp only [groupWorker, PushedSession.workerId, hidentity]
    rw [hnamed]
    have hsort : ∀ l : List (MinerSession F),
        (l.mergeSort fun left right => (compareSessions left right).isLE) =
          StableSort.sort compareSessions l := fun _ => rfl
    simp only [finalizeWorker, groupWorker, hsort]
    rw [hsessions]

/-! ## The workers of some sources -/

section Workers

variable {rows : List (MinerRow F)} {stats : List (MinerSessionSnapshot F)}
  {knownMiners : List (KnownMiner F)} {order : IterOrder (MinerSessionSnapshot F)}
  {currentMiners : Option (List (MinerRow F))} {workerOrder : IterOrder (MinerWorker F)}
  {pushed : List (PushedSession F)} {id : Text}

variable (lib network) in
/-- The worker that is shown for an id. -/
def shownWorker (pushed : List (PushedSession F)) (id : Text) : Option (MinerWorker F) :=
  (groupOf lib network pushed id).head?.map fun first =>
    finalizeWorker (groupWorker lib network first
      ((groupOf lib network pushed id).map (·.session)))

/-- The worker shown for an id has this id. -/
theorem workerId_of_shownWorker {worker : MinerWorker F}
    (h : shownWorker lib network pushed id = some worker) : worker.workerId = id := by
  rw [shownWorker, Option.map_eq_some_iff] at h
  obtain ⟨first, hfirst, hworker⟩ := h
  rw [← hworker]
  exact (workerId_of_head? hfirst).1

/-- The workers as they come out of their map are those shown for the ids. -/
theorem lookup_finalized (pushed : List (PushedSession F)) (id : Text) :
    (AssocMap.mapVals (fun _ worker => finalizeWorker worker)
      (pushAll lib network pushed ∅)).lookup id = shownWorker lib network pushed id := by
  rw [AssocMap.lookup_mapVals, lookup_pushAll, Option.map_map]
  rfl

/-- The list is the sorted workers. -/
theorem buildMinerWorkers_eq_sort :
    buildMinerWorkers lib network now currentMiners stats knownMiners order workerOrder =
      StableSort.sort compareWorkers ((workerOrder.order (pushAll lib network
        (sources lib network now (currentMiners.getD []) stats knownMiners order)
          ∅).values).map finalizeWorker) := by
  rw [buildMinerWorkers, collectWorkers_eq_pushAll]
  rfl

theorem mem_buildMinerWorkers_iff {worker : MinerWorker F}
    (workerOrder : IterOrder (MinerWorker F)) :
    worker ∈ buildMinerWorkers lib network now currentMiners stats knownMiners order
        workerOrder ↔
      ∃ id, shownWorker lib network
        (sources lib network now (currentMiners.getD []) stats knownMiners order) id =
          some worker := by
  simp only [mem_buildMinerWorkers, shownWorker, Option.map_eq_some_iff]
  constructor
  · rintro ⟨id, first, hfirst, rfl⟩
    exact ⟨id, first, hfirst, rfl⟩
  · rintro ⟨id, first, hfirst, rfl⟩
    exact ⟨id, first, hfirst, rfl⟩

/-- The list determines the worker that is shown for every id. -/
theorem shownWorker_eq_of_buildMinerWorkers_eq
    {order' : IterOrder (MinerSessionSnapshot F)} {workerOrder' : IterOrder (MinerWorker F)}
    (h : buildMinerWorkers lib network now currentMiners stats knownMiners order workerOrder =
      buildMinerWorkers lib network now currentMiners stats knownMiners order' workerOrder')
    (id : Text) :
    shownWorker lib network
        (sources lib network now (currentMiners.getD []) stats knownMiners order) id =
      shownWorker lib network
        (sources lib network now (currentMiners.getD []) stats knownMiners order') id := by
  have hsame : ∀ worker, (∃ id, shownWorker lib network
        (sources lib network now (currentMiners.getD []) stats knownMiners order) id =
          some worker) ↔
      ∃ id, shownWorker lib network
        (sources lib network now (currentMiners.getD []) stats knownMiners order') id =
          some worker := by
    intro worker
    rw [← mem_buildMinerWorkers_iff workerOrder, h, mem_buildMinerWorkers_iff]
  refine Option.ext fun worker => ?_
  constructor
  · intro hworker
    obtain ⟨id', hid'⟩ := (hsame worker).1 ⟨id, hworker⟩
    rw [← workerId_of_shownWorker hworker, workerId_of_shownWorker hid']
    exact hid'
  · intro hworker
    obtain ⟨id', hid'⟩ := (hsame worker).2 ⟨id, hworker⟩
    rw [← workerId_of_shownWorker hworker, workerId_of_shownWorker hid']
    exact hid'

/-! ## The snapshots in another order -/

variable (lib network now) in
/-- The sources, with the snapshots no row took in a given order. -/
def sourcesIn (rows : List (MinerRow F)) (stats : List (MinerSessionSnapshot F))
    (knownMiners : List (KnownMiner F)) (left : List (MinerSessionSnapshot F)) :
    List (PushedSession F) :=
  rowSessions now rows stats ++ left.map (statSession now) ++
    (shownMiners lib network (liveWorkerIds lib network rows (leftStats rows stats).values)
      knownMiners).map (knownSession now)

theorem sources_eq_sourcesIn :
    sources lib network now rows stats knownMiners order =
      sourcesIn lib network now rows stats knownMiners
        (order.order (leftStats rows stats).values) :=
  sources_eq

/-- The group of an id: its rows, its snapshots in their order, and its known miners. -/
theorem groupOf_sourcesIn (left : List (MinerSessionSnapshot F)) (id : Text) :
    groupOf lib network (sourcesIn lib network now rows stats knownMiners left) id =
      groupOf lib network (rowSessions now rows stats) id ++
        (left.filter fun stat => workerIdOf lib network stat.userIdentity = id).map
          (statSession now) ++
        groupOf lib network ((shownMiners lib network
          (liveWorkerIds lib network rows (leftStats rows stats).values) knownMiners).map
            (knownSession now)) id := by
  simp only [groupOf, sourcesIn, List.filter_append, List.filter_map]
  rfl

/-- A worker without a row has no session of a row. -/
theorem groupOf_rowSessions_eq_nil_iff :
    groupOf lib network (rowSessions now rows stats) id = [] ↔
      ∀ row ∈ rows, workerIdOf lib network row.userIdentity ≠ id := by
  have hids : (rowSessions now rows stats).map (·.workerId lib network) =
      rows.map fun row => workerIdOf lib network row.userIdentity := by
    conv_rhs => rw [← joinRows_fst (statsByChannel stats) rows]
    rw [rowSessions, List.map_map, List.map_map]
    rfl
  have hmem : (∃ p ∈ rowSessions now rows stats, p.workerId lib network = id) ↔
      ∃ row ∈ rows, workerIdOf lib network row.userIdentity = id := by
    rw [← List.mem_map, ← List.mem_map, hids]
  rw [groupOf, List.filter_eq_nil_iff]
  simp only [decide_eq_true_eq]
  constructor
  · intro h row hrow hid
    obtain ⟨p, hp, hpid⟩ := hmem.2 ⟨row, hrow, hid⟩
    exact h p hp hpid
  · intro h p hp hpid
    obtain ⟨row, hrow, hid⟩ := hmem.1 ⟨p, hp, hpid⟩
    exact h row hrow hid

/-- What two equal workers have in common. -/
theorem eq_of_shownWorker_eq {pushed' : List (PushedSession F)} {first first' : PushedSession F}
    (hfirst : (groupOf lib network pushed id).head? = some first)
    (hfirst' : (groupOf lib network pushed' id).head? = some first')
    (h : shownWorker lib network pushed id = shownWorker lib network pushed' id) :
    first.userIdentity = first'.userIdentity ∧
      StableSort.sort compareSessions ((groupOf lib network pushed id).map (·.session)) =
        StableSort.sort compareSessions ((groupOf lib network pushed' id).map (·.session)) := by
  rw [shownWorker, shownWorker, hfirst, hfirst', Option.map_some, Option.map_some,
    Option.some.injEq] at h
  exact finalizeWorker_groupWorker_eq_iff.1 h

/-- The other way around. -/
theorem shownWorker_eq_of_eq {pushed' : List (PushedSession F)}
    (hnil : groupOf lib network pushed id = [] ↔ groupOf lib network pushed' id = [])
    (hidentity : ∀ first first', (groupOf lib network pushed id).head? = some first →
      (groupOf lib network pushed' id).head? = some first' →
        first.userIdentity = first'.userIdentity)
    (hsort : StableSort.sort compareSessions ((groupOf lib network pushed id).map (·.session)) =
      StableSort.sort compareSessions ((groupOf lib network pushed' id).map (·.session))) :
    shownWorker lib network pushed id = shownWorker lib network pushed' id := by
  rw [shownWorker, shownWorker]
  cases hfirst : (groupOf lib network pushed id).head? with
  | none =>
    rw [List.head?_eq_none_iff, hnil, ← List.head?_eq_none_iff] at hfirst
    rw [hfirst]
    rfl
  | some first =>
    cases hfirst' : (groupOf lib network pushed' id).head? with
    | none =>
      rw [List.head?_eq_none_iff, ← hnil, ← List.head?_eq_none_iff, hfirst] at hfirst'
      cases hfirst'
    | some first' =>
      refine congrArg some (finalizeWorker_groupWorker_eq_iff.2 ⟨?_, hsort⟩)
      exact hidentity first first' hfirst hfirst'

section Alike

variable {ofRows ofKnown : List (PushedSession F)} {group group' : List (MinerSessionSnapshot F)}

theorem map_session_append :
    (ofRows ++ group.map (statSession now) ++ ofKnown).map (·.session) =
      ofRows.map (·.session) ++ group.map (fun stat => (statSession now stat).session) ++
        ofKnown.map (·.session) := by
  rw [List.map_append, List.map_append, List.map_map]
  rfl

/-- Sessions that do not tie among themselves may be sorted in any order among others. -/
theorem sort_sessions_eq (hperm : group.Perm group')
    (hties : ∀ s ∈ group, ∀ t ∈ group,
      compareSessions (statSession now s).session (statSession now t).session = .eq → s = t) :
    StableSort.sort compareSessions
        ((ofRows ++ group.map (statSession now) ++ ofKnown).map (·.session)) =
      StableSort.sort compareSessions
        ((ofRows ++ group'.map (statSession now) ++ ofKnown).map (·.session)) := by
  refine StableSort.sort_eq_iff.2 fun a => ?_
  have htied : StableSort.tied compareSessions a
        (group.map fun stat => (statSession now stat).session) =
      StableSort.tied compareSessions a
        (group'.map fun stat => (statSession now stat).session) := by
    refine List.Perm.eq_of_pairwise (fun x y hx hy _ _ => ?_)
      (List.pairwise_of_forall fun _ _ => trivial) (List.pairwise_of_forall fun _ _ => trivial)
      ((hperm.map _).filter _)
    obtain ⟨hx, hax⟩ := StableSort.mem_tied.1 hx
    obtain ⟨hy, hay⟩ := StableSort.mem_tied.1 hy
    obtain ⟨s, hs, rfl⟩ := List.mem_map.1 hx
    obtain ⟨t, ht, rfl⟩ := List.mem_map.1 hy
    have htie := StableSort.tie_trans (StableSort.tie_symm hax) hay
    rw [hties s hs t (hperm.mem_iff.2 ht) htie]
  simp only [map_session_append, StableSort.tied_append, htied]

/-- The first session names the worker alike if it is one of a row, or if the snapshots
name it alike. -/
theorem userIdentity_head_eq (hperm : group.Perm group')
    (hnames : ofRows = [] → ∀ s ∈ group, ∀ t ∈ group, s.userIdentity = t.userIdentity)
    {first first' : PushedSession F}
    (hfirst : (ofRows ++ group.map (statSession now) ++ ofKnown).head? = some first)
    (hfirst' : (ofRows ++ group'.map (statSession now) ++ ofKnown).head? = some first') :
    first.userIdentity = first'.userIdentity := by
  cases ofRows with
  | cons p ofRows =>
    rw [List.cons_append, List.cons_append, List.head?_cons, Option.some.injEq] at hfirst hfirst'
    rw [← hfirst, ← hfirst']
  | nil =>
    cases group with
    | nil =>
      rw [hperm.nil_eq] at hfirst
      rw [hfirst, Option.some.injEq] at hfirst'
      rw [hfirst']
    | cons s group =>
      cases group' with
      | nil => exact absurd hperm.eq_nil (List.cons_ne_nil _ _)
      | cons t group' =>
        have ht : t ∈ s :: group := hperm.mem_iff.2 List.mem_cons_self
        cases hfirst
        cases hfirst'
        exact hnames rfl s List.mem_cons_self t ht

end Alike

/-- **Sufficiency, for one worker.**  Where nothing ties or comes first by chance, the order
of the snapshots makes no difference. -/
theorem OrderFree.shownWorker_eq (h : OrderFree lib network now rows stats knownMiners)
    {left left' : List (MinerSessionSnapshot F)} (hperm : left.Perm left')
    (hleft : ∀ stat ∈ left, stat ∈ unjoinedStats rows stats) (id : Text) :
    shownWorker lib network (sourcesIn lib network now rows stats knownMiners left) id =
      shownWorker lib network (sourcesIn lib network now rows stats knownMiners left') id := by
  have hgroup : (left.filter fun stat => workerIdOf lib network stat.userIdentity = id).Perm
      (left'.filter fun stat => workerIdOf lib network stat.userIdentity = id) :=
    hperm.filter _
  have hmem : ∀ stat ∈ left.filter fun stat => workerIdOf lib network stat.userIdentity = id,
      stat ∈ unjoinedStats rows stats ∧ workerIdOf lib network stat.userIdentity = id := by
    intro stat hstat
    rw [List.mem_filter, decide_eq_true_eq] at hstat
    exact ⟨hleft stat hstat.1, hstat.2⟩
  apply shownWorker_eq_of_eq
  · have hall : (groupOf lib network
          (sourcesIn lib network now rows stats knownMiners left) id).Perm
        (groupOf lib network (sourcesIn lib network now rows stats knownMiners left') id) := by
      rw [groupOf_sourcesIn, groupOf_sourcesIn]
      exact ((hgroup.map _).append_left _).append_right _
    constructor
    · intro hnil
      rw [hnil] at hall
      exact hall.symm.eq_nil
    · intro hnil
      rw [hnil] at hall
      exact hall.eq_nil
  · intro first first' hfirst hfirst'
    rw [groupOf_sourcesIn] at hfirst hfirst'
    refine userIdentity_head_eq hgroup (fun hnil s hs t ht => ?_) hfirst hfirst'
    obtain ⟨hs, hsid⟩ := hmem s hs
    obtain ⟨ht, htid⟩ := hmem t ht
    refine h.identities s hs t ht (hsid.trans htid.symm) fun row hrow => ?_
    rw [hsid]
    exact groupOf_rowSessions_eq_nil_iff.1 hnil row hrow
  · rw [groupOf_sourcesIn, groupOf_sourcesIn]
    refine sort_sessions_eq hgroup fun s hs t ht htie => ?_
    obtain ⟨hs, hsid⟩ := hmem s hs
    obtain ⟨ht, htid⟩ := hmem t ht
    obtain ⟨hclosed, hclient, hchannel⟩ := compareSessions_eq_iff.1 htie
    exact h.sessions s hs t ht (hsid.trans htid.symm) hclosed hclient hchannel

/-- **Sufficiency.**  Where no two workers tie either, the list is the same in every order. -/
theorem OrderFree.buildMinerWorkers_eq
    (h : OrderFree lib network now (currentMiners.getD []) stats knownMiners)
    (hstats : (stats.map MinerSessionSnapshot.key).Nodup)
    (order : IterOrder (MinerSessionSnapshot F)) (workerOrder : IterOrder (MinerWorker F)) :
    buildMinerWorkers lib network now currentMiners stats knownMiners default default =
      buildMinerWorkers lib network now currentMiners stats knownMiners order workerOrder := by
  have hshown : ∀ id, shownWorker lib network
        (sources lib network now (currentMiners.getD []) stats knownMiners default) id =
      shownWorker lib network
        (sources lib network now (currentMiners.getD []) stats knownMiners order) id := by
    intro id
    rw [sources_eq_sourcesIn, sources_eq_sourcesIn]
    refine h.shownWorker_eq ?_ (fun stat hstat => ?_) id
    · exact (IterOrder.perm _ _).trans (order.perm _).symm
    · exact (values_leftStats hstats).mem_iff.1 ((IterOrder.perm _ _).mem_iff.1 hstat)
  have hvalues := AssocMap.values_perm fun id =>
    (lookup_finalized _ id).trans ((hshown id).trans (lookup_finalized _ id).symm)
  rw [AssocMap.values_mapVals, AssocMap.values_mapVals] at hvalues
  rw [buildMinerWorkers_eq_sort, buildMinerWorkers_eq_sort]
  refine StableSort.sort_eq_of_perm ?_ ?_
  · refine ((IterOrder.perm _ _).map finalizeWorker).trans (hvalues.trans ?_)
    exact (workerOrder.perm _).symm.map finalizeWorker
  · intro worker hworker worker' hworker' htie
    rw [← (StableSort.sort_perm compareWorkers _).mem_iff,
      ← buildMinerWorkers_eq_sort] at hworker hworker'
    obtain ⟨id, hid⟩ := (mem_buildMinerWorkers_iff _).1 hworker
    obtain ⟨id', hid'⟩ := (mem_buildMinerWorkers_iff _).1 hworker'
    have hids : id = id' := by
      have hid₁ := hid
      have hid₂ := hid'
      rw [shownWorker, Option.map_eq_some_iff] at hid₁ hid₂
      obtain ⟨first, hfirst, rfl⟩ := hid₁
      obtain ⟨first', hfirst', rfl⟩ := hid₂
      obtain ⟨hfirstId, hmem⟩ := workerId_of_head? hfirst
      obtain ⟨hfirstId', hmem'⟩ := workerId_of_head? hfirst'
      have hrank := (compareWorkers_finalizeWorker hfirst hfirst').1 htie
      have heq := h.workers first hmem first' hmem' (by
        rw [hfirstId, hfirstId']
        exact hrank)
      rw [← hfirstId, heq, hfirstId']
    rw [← hids, hid, Option.some.injEq] at hid'
    exact hid'

end Workers

/-! ## Necessity -/

section Independent

variable (lib network now) in
/-- **The list does not depend on the iteration orders** of the two maps. -/
def OrderIndependent (currentMiners : Option (List (MinerRow F)))
    (stats : List (MinerSessionSnapshot F)) (knownMiners : List (KnownMiner F)) : Prop :=
  ∀ order order' workerOrder workerOrder',
    buildMinerWorkers lib network now currentMiners stats knownMiners order workerOrder =
      buildMinerWorkers lib network now currentMiners stats knownMiners order' workerOrder'

variable {currentMiners : Option (List (MinerRow F))} {stats : List (MinerSessionSnapshot F)}
  {knownMiners : List (KnownMiner F)}

/-- Two snapshots of one worker may come before all others, in either order, without
changing how the worker is named or how its sessions are sorted. -/
theorem OrderIndependent.swap
    (h : OrderIndependent lib network now currentMiners stats knownMiners)
    (hstats : (stats.map MinerSessionSnapshot.key).Nodup) {s t : MinerSessionSnapshot F}
    (hs : s ∈ unjoinedStats (currentMiners.getD []) stats)
    (ht : t ∈ unjoinedStats (currentMiners.getD []) stats)
    (hids : workerIdOf lib network s.userIdentity = workerIdOf lib network t.userIdentity)
    (hne : s ≠ t) :
    ∃ ofRows r ofKnown, ofRows = groupOf lib network
        (rowSessions now (currentMiners.getD []) stats)
          (workerIdOf lib network s.userIdentity) ∧
      (∀ first first',
        (ofRows ++ (s :: t :: r).map (statSession now) ++ ofKnown).head? = some first →
        (ofRows ++ (t :: s :: r).map (statSession now) ++ ofKnown).head? = some first' →
          first.userIdentity = first'.userIdentity) ∧
      StableSort.sort compareSessions
          ((ofRows ++ (s :: t :: r).map (statSession now) ++ ofKnown).map (·.session)) =
        StableSort.sort compareSessions
          ((ofRows ++ (t :: s :: r).map (statSession now) ++ ofKnown).map (·.session)) := by
  have hs' := (values_leftStats hstats).mem_iff.2 hs
  have ht' := (values_leftStats hstats).mem_iff.2 ht
  obtain ⟨order, order', r, horder, horder'⟩ := IterOrder.exists_swap hs' ht' hne
  have hsame := shownWorker_eq_of_buildMinerWorkers_eq (h order order' default default)
    (workerIdOf lib network s.userIdentity)
  rw [sources_eq_sourcesIn, sources_eq_sourcesIn, horder, horder'] at hsame
  generalize hid : workerIdOf lib network s.userIdentity = id at hids hsame ⊢
  obtain ⟨group, ofKnown, hgroup⟩ : ∃ group ofKnown, ∀ a b : MinerSessionSnapshot F,
      workerIdOf lib network a.userIdentity = id → workerIdOf lib network b.userIdentity = id →
      groupOf lib network
          (sourcesIn lib network now (currentMiners.getD []) stats knownMiners (a :: b :: r)) id =
        groupOf lib network (rowSessions now (currentMiners.getD []) stats) id ++
          (a :: b :: group).map (statSession now) ++ ofKnown := by
    refine ⟨r.filter fun stat => workerIdOf lib network stat.userIdentity = id,
      groupOf lib network ((shownMiners lib network (liveWorkerIds lib network
        (currentMiners.getD []) (leftStats (currentMiners.getD []) stats).values)
          knownMiners).map (knownSession now)) id, fun a b ha hb => ?_⟩
    rw [groupOf_sourcesIn, List.filter_cons_of_pos (by simpa using ha),
      List.filter_cons_of_pos (by simpa using hb)]
  refine ⟨_, group, ofKnown, rfl, fun first first' hfirst hfirst' => ?_, ?_⟩
  · rw [← hgroup s t hid hids.symm] at hfirst
    rw [← hgroup t s hids.symm hid] at hfirst'
    exact (eq_of_shownWorker_eq hfirst hfirst' hsame).1
  · have hhead : ∀ a b : MinerSessionSnapshot F, workerIdOf lib network a.userIdentity = id →
        workerIdOf lib network b.userIdentity = id → ∃ first, (groupOf lib network
          (sourcesIn lib network now (currentMiners.getD []) stats knownMiners
            (a :: b :: r)) id).head? = some first := by
      intro a b ha hb
      rw [hgroup a b ha hb]
      cases groupOf lib network (rowSessions now (currentMiners.getD []) stats) id with
      | nil => exact ⟨_, rfl⟩
      | cons p ofRows => exact ⟨_, rfl⟩
    obtain ⟨first, hfirst⟩ := hhead s t hid hids.symm
    obtain ⟨first', hfirst'⟩ := hhead t s hids.symm hid
    have hsort := (eq_of_shownWorker_eq hfirst hfirst' hsame).2
    rw [hgroup s t hid hids.symm, hgroup t s hids.symm hid] at hsort
    exact hsort

/-- The snapshots of one worker do not tie. -/
theorem OrderIndependent.sessions
    (h : OrderIndependent lib network now currentMiners stats knownMiners)
    (hstats : (stats.map MinerSessionSnapshot.key).Nodup) {s t : MinerSessionSnapshot F}
    (hs : s ∈ unjoinedStats (currentMiners.getD []) stats)
    (ht : t ∈ unjoinedStats (currentMiners.getD []) stats)
    (hids : workerIdOf lib network s.userIdentity = workerIdOf lib network t.userIdentity)
    (hclosed : s.closedAt.isNone = t.closedAt.isNone) (hclient : s.downstreamId = t.downstreamId)
    (hchannel : s.channelId = t.channelId) : s = t := by
  by_contra hne
  obtain ⟨ofRows, r, ofKnown, -, -, hsort⟩ := h.swap hstats hs ht hids hne
  have hself : compareSessions (statSession now s).session (statSession now s).session = .eq :=
    StableSort.tie_refl _
  have htie : compareSessions (statSession now s).session (statSession now t).session = .eq :=
    compareSessions_eq_iff.2 ⟨hclosed, hclient, hchannel⟩
  have htied := StableSort.sort_eq_iff.1 hsort (statSession now s).session
  rw [map_session_append, map_session_append] at htied
  simp only [StableSort.tied_append] at htied
  have hmiddle := List.append_cancel_left (List.append_cancel_right htied)
  simp only [StableSort.tied, List.map_cons, List.filter_cons, hself, htie, decide_true,
    if_true] at hmiddle
  have hkind : s.channelKind = t.channelKind :=
    congrArg MinerSession.channelKind (List.cons.inj hmiddle).1
  have hkey : s.key = t.key := by
    rw [MinerSessionSnapshot.key, MinerSessionSnapshot.key, hclient, hchannel, hkind]
  exact hne (List.inj_on_of_nodup_map hstats (List.mem_of_mem_filter hs)
    (List.mem_of_mem_filter ht) hkey)

/-- The snapshots of a worker without a row name it alike. -/
theorem OrderIndependent.identities
    (h : OrderIndependent lib network now currentMiners stats knownMiners)
    (hstats : (stats.map MinerSessionSnapshot.key).Nodup) {s t : MinerSessionSnapshot F}
    (hs : s ∈ unjoinedStats (currentMiners.getD []) stats)
    (ht : t ∈ unjoinedStats (currentMiners.getD []) stats)
    (hids : workerIdOf lib network s.userIdentity = workerIdOf lib network t.userIdentity)
    (hrows : ∀ row ∈ currentMiners.getD [], workerIdOf lib network row.userIdentity ≠
      workerIdOf lib network s.userIdentity) : s.userIdentity = t.userIdentity := by
  by_cases heq : s = t
  · rw [heq]
  · obtain ⟨ofRows, r, ofKnown, hofRows, hnames, -⟩ := h.swap hstats hs ht hids heq
    rw [groupOf_rowSessions_eq_nil_iff.2 hrows] at hofRows
    rw [hofRows] at hnames
    exact hnames _ _ rfl rfl

/-- The workers do not tie. -/
theorem OrderIndependent.workers
    (h : OrderIndependent lib network now currentMiners stats knownMiners)
    {p q : PushedSession F}
    (hp : p ∈ sources lib network now (currentMiners.getD []) stats knownMiners default)
    (hq : q ∈ sources lib network now (currentMiners.getD []) stats knownMiners default)
    (hrank : SameRank lib network
      (groupOf lib network (sources lib network now (currentMiners.getD []) stats knownMiners
        default) (p.workerId lib network))
      (groupOf lib network (sources lib network now (currentMiners.getD []) stats knownMiners
        default) (q.workerId lib network))) :
    p.workerId lib network = q.workerId lib network := by
  generalize hpushed : sources lib network now (currentMiners.getD []) stats knownMiners default =
    pushed at hp hq hrank
  have hworker : ∀ p ∈ pushed, ∃ first worker,
      (groupOf lib network pushed (p.workerId lib network)).head? = some first ∧
      worker = groupWorker lib network first
        ((groupOf lib network pushed (p.workerId lib network)).map (·.session)) ∧
      worker ∈ (pushAll lib network pushed ∅).values ∧
      worker.workerId = p.workerId lib network := by
    intro p hp
    have hmem : p ∈ groupOf lib network pushed (p.workerId lib network) :=
      List.mem_filter.2 ⟨hp, decide_eq_true rfl⟩
    obtain ⟨first, hfirst⟩ := Option.isSome_iff_exists.1
      (List.isSome_head?.2 (List.ne_nil_of_mem hmem))
    refine ⟨first, _, hfirst, rfl, AssocMap.mem_values.2 ⟨p.workerId lib network, ?_⟩, ?_⟩
    · rw [lookup_pushAll]
      exact congrArg (Option.map _) hfirst
    · exact (workerId_of_head? hfirst).1
  by_contra hne
  obtain ⟨first, worker, hfirst, hworkerEq, hmem, hid⟩ := hworker p hp
  obtain ⟨first', worker', hfirst', hworkerEq', hmem', hid'⟩ := hworker q hq
  have hworkers : worker ≠ worker' := by
    intro heq
    rw [← hid, ← hid', heq] at hne
    exact hne rfl
  obtain ⟨order, order', r, horder, horder'⟩ := IterOrder.exists_swap hmem hmem' hworkers
  have hsame := h default default order order'
  rw [buildMinerWorkers_eq_sort, buildMinerWorkers_eq_sort, hpushed, horder, horder',
    List.map_cons, List.map_cons, List.map_cons, List.map_cons] at hsame
  have htie : compareWorkers (finalizeWorker worker) (finalizeWorker worker') = .eq := by
    rw [hworkerEq, hworkerEq']
    exact (compareWorkers_finalizeWorker hfirst hfirst').2 hrank
  have hfinal := congrArg MinerWorker.workerId (StableSort.eq_of_sort_swap hsame htie)
  exact hne (hid.symm.trans (hfinal.trans hid'))

/-- **The list depends on no iteration order exactly if nothing ties or comes first by
chance.** -/
theorem orderIndependent_iff_orderFree (hstats : (stats.map MinerSessionSnapshot.key).Nodup) :
    OrderIndependent lib network now currentMiners stats knownMiners ↔
      OrderFree lib network now (currentMiners.getD []) stats knownMiners := by
  constructor
  · intro h
    constructor
    case sessions => exact fun s hs t ht hids => h.sessions hstats hs ht hids
    case identities => exact fun s hs t ht hids => h.identities hstats hs ht hids
    case workers => exact fun p hp q hq => h.workers hp hq
  · intro h order order' workerOrder workerOrder'
    exact (h.buildMinerWorkers_eq hstats order workerOrder).symm.trans
      (h.buildMinerWorkers_eq hstats order' workerOrder')

end Independent

/-! ## One miner under two identities -/

/-- A snapshot of a channel that a miner has closed. -/
def closedStatOf (userIdentity : Text) (channelId : ChannelId) :
    MinerSessionSnapshot ExactDouble :=
  channelStatOf userIdentity channelId "standard".toList (some 10)

/-- Alice's identity in the other form. -/
def aliceSolo : Text := "sri/solo/".toList ++ aliceAddress

/-- Alice's closed channel and Bob in the history are listed in one order. -/
theorem orderIndependent_aliceAndBob :
    OrderIndependent tableLib .regtest 20 none [closedStatOf aliceAddress 2] [knownBob] := by
  have hstats : ([closedStatOf aliceAddress 2].map MinerSessionSnapshot.key).Nodup := by decide
  refine (orderIndependent_iff_orderFree hstats).2 ⟨?_, ?_, ?_⟩
  · intro s hs t ht _ _ _ _
    rw [List.mem_singleton.1 (List.mem_of_mem_filter hs),
      List.mem_singleton.1 (List.mem_of_mem_filter ht)]
  · intro s hs t ht _ _
    rw [List.mem_singleton.1 (List.mem_of_mem_filter hs),
      List.mem_singleton.1 (List.mem_of_mem_filter ht)]
  · have hsource : ∀ p ∈ sources tableLib .regtest 20 [] [closedStatOf aliceAddress 2]
        [knownBob] default,
        p = statSession 20 (closedStatOf aliceAddress 2) ∨ p = knownSession 20 knownBob := by
      intro p hp
      rcases mem_sources hp with ⟨joined, hjoined, -⟩ | ⟨stat, hstat, hp⟩ | ⟨miner, hminer, hp⟩
      · cases hjoined
      · have hmem := (values_leftStats hstats).mem_iff.1 hstat
        rw [List.mem_singleton.1 (List.mem_of_mem_filter hmem)] at hp
        exact .inl hp
      · rw [List.mem_singleton.1 hminer] at hp
        exact .inr hp
    intro p hp q hq hrank
    have hidentity := hrank.identity
    rcases hsource p hp with hp | hp <;> rcases hsource q hq with hq | hq
    · rw [hp, hq]
    · rw [hp, hq] at hidentity
      refine absurd hidentity ?_
      decide +kernel
    · rw [hp, hq] at hidentity
      refine absurd hidentity ?_
      decide +kernel
    · rw [hp, hq]

/-- **The identity flickers.**  Alice has closed two channels, opened under the two forms of
her identity: which of them names her worker depends on the iteration order. -/
theorem orderIndependent_fails_twoForms :
    ¬ ∀ (currentMiners : Option (List (MinerRow ExactDouble)))
      (stats : List (MinerSessionSnapshot ExactDouble))
      (knownMiners : List (KnownMiner ExactDouble)),
      (stats.map MinerSessionSnapshot.key).Nodup → (knownMiners.map (·.minerId)).Nodup →
        OrderIndependent tableLib .regtest 20 currentMiners stats knownMiners := by
  intro hall
  have hstats : ([closedStatOf aliceAddress 2, closedStatOf aliceSolo 3].map
      MinerSessionSnapshot.key).Nodup := by decide
  have hindependent := hall none [closedStatOf aliceAddress 2, closedStatOf aliceSolo 3] []
    hstats .nil
  have hmem : ∀ stat ∈ [closedStatOf aliceAddress 2, closedStatOf aliceSolo 3],
      stat ∈ unjoinedStats [] [closedStatOf aliceAddress 2, closedStatOf aliceSolo 3] :=
    fun stat hstat => List.mem_filter.2 ⟨hstat, rfl⟩
  have hids : workerIdOf tableLib .regtest (closedStatOf aliceAddress 2).userIdentity =
      workerIdOf tableLib .regtest (closedStatOf aliceSolo 3).userIdentity := by
    decide +kernel
  have hsame := hindependent.identities hstats (hmem _ List.mem_cons_self)
    (hmem _ (List.mem_cons_of_mem _ List.mem_cons_self)) hids
    fun _ hrow => absurd hrow List.not_mem_nil
  revert hsame
  decide

end CanaryMining
