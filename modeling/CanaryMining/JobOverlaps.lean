import CanaryMining.JobWindows
import CanaryMining.Lib.Run

/-!
# Repeated ids in the job store

The job store is told of a future job by its template and finds it by its own id, and
either may have been seen before.  The past and the stale jobs are kept in step with
their orders whatever is inserted.  The two maps of the future jobs are not: their common
order forgets an entry that shares its template or its job id with the new one, but each map
loses only what the new entry replaces in it.

`staysConsistent_iff_addsWhole` says when this does not happen: an added future job
replaces an entry of the order as a whole or not at all.

## Main definitions

* `BoundedJobStore.Consistent` — the maps are bounded and in step with their orders.
* `StaysConsistent` — a step leads to such a store, and changes nothing if it fails.
* `AddsWhole` — what a step adds overlaps with no entry in one of its two ids only.
-/

namespace CanaryMining

variable {T : Type} [Job T]

/-- A step of a job store. -/
def StoreStep (store : BoundedJobStore T) (op : JobOp T) (store' : BoundedJobStore T) : Prop :=
  store.apply op = store'

/-- Pruning keeps a map in step with its order. -/
theorem AssocMap.ListsKeys.dropOldest {V : Type} {order : List UInt32} {jobs : AssocMap UInt32 V}
    (h : AssocMap.ListsKeys order jobs) (cap : ℕ) :
    AssocMap.ListsKeys (CanaryMining.dropOldest cap AList.erase order jobs).1
      (CanaryMining.dropOldest cap AList.erase order jobs).2 := by
  rw [dropOldest_fst, dropOldest_snd]
  exact h.drop _

/-- Pruning leaves no more than the cap. -/
theorem length_dropOldest_le {A M : Type} {cap : ℕ} {remove : A → M → M} (order : List A)
    (maps : M) : (dropOldest cap remove order maps).1.length ≤ cap := by
  rw [dropOldest_fst, List.length_drop]
  omega

namespace BoundedJobStore

open AssocMap

omit [Job T] in
/-- **Bounded and consistent.**  Every map is as small as it is meant to be, has the keys
its order lists, and every future template leads to a job. -/
structure Consistent (store : BoundedJobStore T) : Prop where
  futureJobs_le : store.futureJobs.keys.length ≤ maxFutureJobs
  templates_le : store.futureTemplateToJobId.keys.length ≤ maxFutureJobs
  pastJobs_le : store.pastJobs.keys.length ≤ maxPastJobs
  staleJobs_le : store.staleJobs.keys.length ≤ maxStaleJobs
  futureJobs : ListsKeys (store.futureOrder.map Prod.snd) store.futureJobs
  templates : ListsKeys (store.futureOrder.map Prod.fst) store.futureTemplateToJobId
  pastJobs : ListsKeys store.pastOrder store.pastJobs
  staleJobs : ListsKeys store.staleOrder store.staleJobs
  leads : ∀ templateId jobId, store.futureTemplateToJobId.lookup templateId = some jobId →
    (store.futureJobs.lookup jobId).isSome

omit [Job T] in
/-- What holds of every store: the past and stale jobs are bounded and in step with their
orders, and the entries of the order of the future jobs are in both maps. -/
structure Ordered (store : BoundedJobStore T) : Prop where
  templates_nodup : (store.futureOrder.map Prod.fst).Nodup
  jobs_nodup : (store.futureOrder.map Prod.snd).Nodup
  futures_le : store.futureOrder.length ≤ maxFutureJobs
  templates : ∀ entry ∈ store.futureOrder,
    store.futureTemplateToJobId.lookup entry.1 = some entry.2
  futureJobs : ∀ entry ∈ store.futureOrder, (store.futureJobs.lookup entry.2).isSome
  pastJobs : ListsKeys store.pastOrder store.pastJobs
  pasts_le : store.pastOrder.length ≤ maxPastJobs
  staleJobs : ListsKeys store.staleOrder store.staleJobs
  stales_le : store.staleOrder.length ≤ maxStaleJobs

omit [Job T] in
/-- No entry of the two maps is forgotten by their order. -/
structure NoOrphans (store : BoundedJobStore T) : Prop where
  templates : ∀ templateId, (store.futureTemplateToJobId.lookup templateId).isSome →
    templateId ∈ store.futureOrder.map Prod.fst
  futureJobs : ∀ jobId, (store.futureJobs.lookup jobId).isSome →
    jobId ∈ store.futureOrder.map Prod.snd

variable {store : BoundedJobStore T} {job : T}

omit [Job T] in
/-- An ordered store is consistent exactly if its order forgets nothing. -/
theorem Ordered.consistent_iff (h : Ordered store) : Consistent store ↔ NoOrphans store := by
  constructor
  · intro hc
    constructor
    · exact fun t ht => (hc.templates.mem_iff t).2 ht
    · exact fun id hid => (hc.futureJobs.mem_iff id).2 hid
  · intro hn
    have htemplates : ListsKeys (store.futureOrder.map Prod.fst) store.futureTemplateToJobId := by
      refine ⟨h.templates_nodup, fun t => ⟨fun ht => ?_, hn.templates t⟩⟩
      obtain ⟨entry, hentry, rfl⟩ := List.mem_map.1 ht
      rw [h.templates entry hentry]
      rfl
    have hjobs : ListsKeys (store.futureOrder.map Prod.snd) store.futureJobs := by
      refine ⟨h.jobs_nodup, fun id => ⟨fun hid => ?_, hn.futureJobs id⟩⟩
      obtain ⟨entry, hentry, rfl⟩ := List.mem_map.1 hid
      exact h.futureJobs entry hentry
    refine ⟨?_, ?_, ?_, ?_, hjobs, htemplates, h.pastJobs, h.staleJobs, ?_⟩
    · rw [hjobs.length_eq, List.length_map]
      exact h.futures_le
    · rw [htemplates.length_eq, List.length_map]
      exact h.futures_le
    · rw [h.pastJobs.length_eq]
      exact h.pasts_le
    · rw [h.staleJobs.length_eq]
      exact h.stales_le
    · intro t id hid
      obtain ⟨entry, hentry, rfl⟩ := List.mem_map.1 (hn.templates t (by rw [hid]; rfl))
      rw [h.templates entry hentry, Option.some.injEq] at hid
      exact hid ▸ h.futureJobs entry hentry

omit [Job T] in
theorem ordered_new : Ordered (new : BoundedJobStore T) where
  templates_nodup := .nil
  jobs_nodup := .nil
  futures_le := Nat.zero_le _
  templates _ h := absurd h List.not_mem_nil
  futureJobs _ h := absurd h List.not_mem_nil
  pastJobs := .nil
  pasts_le := Nat.zero_le _
  staleJobs := .nil
  stales_le := Nat.zero_le _

omit [Job T] in
theorem noOrphans_new : NoOrphans (new : BoundedJobStore T) := ⟨nofun, nofun⟩

/-! ## Past and stale jobs -/

theorem Ordered.insertPastJob (h : Ordered store) (job : T) :
    Ordered (store.insertPastJob job) where
  templates_nodup := h.templates_nodup
  jobs_nodup := h.jobs_nodup
  futures_le := h.futures_le
  templates := h.templates
  futureJobs := h.futureJobs
  pastJobs := (h.pastJobs.insert (Job.getJobId job) job).dropOldest maxPastJobs
  pasts_le := length_dropOldest_le _ _
  staleJobs := h.staleJobs
  stales_le := h.stales_le

/-- The displaced job is a past one, and nothing happens to the future jobs. -/
theorem Ordered.displaceActiveJob (h : Ordered store) :
    Ordered store.displaceActiveJob ∧ (NoOrphans store → NoOrphans store.displaceActiveJob) := by
  unfold BoundedJobStore.displaceActiveJob
  split
  · rename_i active _
    have hnone : Ordered { store with activeJob := none } := { h with }
    exact ⟨hnone.insertPastJob active, fun hn => ⟨hn.templates, hn.futureJobs⟩⟩
  · exact ⟨h, id⟩

omit [Job T] in
/-- What the loop of `mark_past_jobs_as_stale` changes. -/
theorem foldl_markAsStale_spec (ids : List UInt32) (store : BoundedJobStore T)
    (hstale : ListsKeys store.staleOrder store.staleJobs) :
    ∃ pastJobs staleJobs staleOrder, ListsKeys staleOrder staleJobs ∧
      ids.foldl markAsStale store =
        { store with pastJobs := pastJobs, staleJobs := staleJobs, staleOrder := staleOrder } := by
  induction ids generalizing store with
  | nil => exact ⟨_, _, _, hstale, rfl⟩
  | cons id ids ih =>
    rw [List.foldl_cons]
    cases hjob : store.pastJobs.lookup id with
    | none =>
      have hmark : store.markAsStale id = store := by simp only [markAsStale, hjob]
      rw [hmark]
      exact ih store hstale
    | some job =>
      have hmark : store.markAsStale id =
          { store with
            pastJobs := store.pastJobs.erase id
            staleJobs := store.staleJobs.insert id job
            staleOrder := store.staleOrder.filter (· ≠ id) ++ [id] } := by
        simp only [markAsStale, hjob]
      rw [hmark]
      exact ih _ (hstale.insert id job)

omit [Job T] in
theorem Ordered.markPastJobsAsStale (h : Ordered store) :
    Ordered store.markPastJobsAsStale ∧
      (NoOrphans store → NoOrphans store.markPastJobsAsStale) := by
  obtain ⟨pastJobs, staleJobs, staleOrder, hstale, hfold⟩ :=
    foldl_markAsStale_spec store.pastOrder { store with pastOrder := [] } h.staleJobs
  have hmark : store.markPastJobsAsStale = pruneStaleJobs
      { store with
        pastOrder := []
        pastJobs := ∅
        staleJobs := staleJobs
        staleOrder := staleOrder } := by
    rw [BoundedJobStore.markPastJobsAsStale, hfold]
  rw [hmark]
  refine ⟨?_, fun hn => ⟨hn.templates, hn.futureJobs⟩⟩
  exact {
    templates_nodup := h.templates_nodup
    jobs_nodup := h.jobs_nodup
    futures_le := h.futures_le
    templates := h.templates
    futureJobs := h.futureJobs
    pastJobs := .nil
    pasts_le := Nat.zero_le _
    staleJobs := hstale.dropOldest maxStaleJobs
    stales_le := length_dropOldest_le _ _ }

/-! ## Future jobs -/

/-- **What an added future job changes**: the oldest entries of the order are dropped, each
with its template and its job. -/
theorem addFutureJob_spec (store : BoundedJobStore T) (templateId : UInt64) (newJob : T) :
    ∃ dropped,
      (store.futureOrder.filter fun entry =>
        decide (entry.1 ≠ templateId) && decide (entry.2 ≠ Job.getJobId newJob)) ++
          [(templateId, Job.getJobId newJob)] =
        dropped ++ (store.addFutureJob templateId newJob).futureOrder ∧
      (∀ t, (store.addFutureJob templateId newJob).futureTemplateToJobId.lookup t =
        if t ∈ dropped.map Prod.fst then none
        else if t = templateId then some (Job.getJobId newJob)
        else store.futureTemplateToJobId.lookup t) ∧
      ∀ id, (store.addFutureJob templateId newJob).futureJobs.lookup id =
        if id ∈ dropped.map Prod.snd then none
        else if id = Job.getJobId newJob then some newJob else store.futureJobs.lookup id := by
  generalize horder : (store.futureOrder.filter fun entry =>
    decide (entry.1 ≠ templateId) && decide (entry.2 ≠ Job.getJobId newJob)) ++
      [(templateId, Job.getJobId newJob)] = order
  have hpruned : (dropOldest maxFutureJobs
      (fun (entry : UInt64 × UInt32) (maps : AssocMap UInt64 UInt32 × AssocMap UInt32 T) =>
        (maps.1.erase entry.1, maps.2.erase entry.2)) order
      (store.futureTemplateToJobId.insert templateId (Job.getJobId newJob),
        store.futureJobs.insert (Job.getJobId newJob) newJob)).2 =
      ((dropOldest maxFutureJobs AList.erase (order.map Prod.fst)
          (store.futureTemplateToJobId.insert templateId (Job.getJobId newJob))).2,
        (dropOldest maxFutureJobs AList.erase (order.map Prod.snd)
          (store.futureJobs.insert (Job.getJobId newJob) newJob)).2) :=
    dropOldest_prod order _
  refine ⟨order.take (order.length - maxFutureJobs), ?_, fun t => ?_, fun id => ?_⟩
  · simp only [addFutureJob, pruneFutureJobs, horder, dropOldest_fst, List.take_append_drop]
  · simp only [addFutureJob, pruneFutureJobs, horder, hpruned]
    rw [dropOldest_snd, lookup_foldl_erase, lookup_insert_if, List.length_map, List.map_take]
  · simp only [addFutureJob, pruneFutureJobs, horder, hpruned]
    rw [dropOldest_snd, lookup_foldl_erase, lookup_insert_if, List.length_map, List.map_take]

omit [Job T] in
/-- The entries that stay when another is recorded, with that one, have different templates
and different jobs. -/
theorem Ordered.nodup_recorded (h : Ordered store) (templateId : UInt64) (jobId : UInt32)
    {recorded : List (UInt64 × UInt32)}
    (hrecorded : store.futureOrder.filter (fun entry =>
      decide (entry.1 ≠ templateId) && decide (entry.2 ≠ jobId)) ++ [(templateId, jobId)] =
        recorded) :
    (recorded.map Prod.fst).Nodup ∧ (recorded.map Prod.snd).Nodup := by
  rw [← hrecorded, List.map_append, List.map_append, List.nodup_append, List.nodup_append]
  refine ⟨⟨h.templates_nodup.sublist (List.filter_sublist.map _), List.nodup_singleton _, ?_⟩,
    ⟨h.jobs_nodup.sublist (List.filter_sublist.map _), List.nodup_singleton _, ?_⟩⟩
  · intro t ht t' ht' heq
    obtain ⟨entry, hentry, rfl⟩ := List.mem_map.1 ht
    have hstays := (List.mem_filter.1 hentry).2
    rw [Bool.and_eq_true, decide_eq_true_eq] at hstays
    exact hstays.1 (heq.trans (List.mem_singleton.1 ht'))
  · intro id hid id' hid' heq
    obtain ⟨entry, hentry, rfl⟩ := List.mem_map.1 hid
    have hstays := (List.mem_filter.1 hentry).2
    rw [Bool.and_eq_true, decide_eq_true_eq, decide_eq_true_eq] at hstays
    exact hstays.2 (heq.trans (List.mem_singleton.1 hid'))

omit [Job T] in
/-- The entries that stay when another is recorded have another template and another job. -/
theorem mem_recorded {templateId : UInt64} {jobId : UInt32} {entry : UInt64 × UInt32} :
    entry ∈ store.futureOrder.filter (fun entry =>
        decide (entry.1 ≠ templateId) && decide (entry.2 ≠ jobId)) ++ [(templateId, jobId)] ↔
      entry = (templateId, jobId) ∨
        entry ∈ store.futureOrder ∧ entry.1 ≠ templateId ∧ entry.2 ≠ jobId := by
  rw [List.mem_append, List.mem_singleton, List.mem_filter, Bool.and_eq_true, decide_eq_true_eq,
    decide_eq_true_eq, or_comm]

/-- What an added future job finds is kept: every entry of the order is in both maps. -/
theorem Ordered.addFutureJob (h : Ordered store) (templateId : UInt64) (newJob : T) :
    Ordered (store.addFutureJob templateId newJob) := by
  obtain ⟨dropped, hrecorded, htemplates, hjobs⟩ := addFutureJob_spec store templateId newJob
  obtain ⟨hfst, hsnd⟩ := h.nodup_recorded templateId _ hrecorded
  rw [List.map_append, List.nodup_append] at hfst hsnd
  have hentries : ∀ entry ∈ (store.addFutureJob templateId newJob).futureOrder,
      entry = (templateId, Job.getJobId newJob) ∨
        entry ∈ store.futureOrder ∧ entry.1 ≠ templateId ∧ entry.2 ≠ Job.getJobId newJob := by
    intro entry hentry
    refine mem_recorded.1 ?_
    rw [hrecorded]
    exact List.mem_append_right _ hentry
  constructor
  case templates_nodup => exact hfst.2.1
  case jobs_nodup => exact hsnd.2.1
  case futures_le => exact length_dropOldest_le _ _
  case templates =>
    intro entry hentry
    have hkept : entry.1 ∉ dropped.map Prod.fst := fun hmem =>
      hfst.2.2 _ hmem _ (List.mem_map_of_mem hentry) rfl
    rw [htemplates, if_neg hkept]
    rcases hentries entry hentry with rfl | ⟨hold, hne, -⟩
    · rw [if_pos rfl]
    · rw [if_neg hne]
      exact h.templates entry hold
  case futureJobs =>
    intro entry hentry
    have hkept : entry.2 ∉ dropped.map Prod.snd := fun hmem =>
      hsnd.2.2 _ hmem _ (List.mem_map_of_mem hentry) rfl
    rw [hjobs, if_neg hkept]
    rcases hentries entry hentry with rfl | ⟨hold, -, hne⟩
    · rw [if_pos rfl]
      rfl
    · rw [if_neg hne]
      exact h.futureJobs entry hold
  case pastJobs => exact h.pastJobs
  case pasts_le => exact h.pasts_le
  case staleJobs => exact h.staleJobs
  case stales_le => exact h.stales_le

/-- What an added future job shares with an entry of the order, it shares as a whole. -/
def SharesWhole (store : BoundedJobStore T) (templateId : UInt64) (newJob : T) : Prop :=
  ∀ entry ∈ store.futureOrder, entry.1 = templateId ↔ entry.2 = Job.getJobId newJob

instance (store : BoundedJobStore T) (templateId : UInt64) (newJob : T) :
    Decidable (SharesWhole store templateId newJob) :=
  List.decidableBAll
    (fun entry : UInt64 × UInt32 => entry.1 = templateId ↔ entry.2 = Job.getJobId newJob)
    store.futureOrder

/-- **An addition forgets nothing** exactly if it replaces entries as a whole. -/
theorem Ordered.noOrphans_addFutureJob_iff (h : Ordered store) (hn : NoOrphans store)
    (templateId : UInt64) (newJob : T) :
    NoOrphans (store.addFutureJob templateId newJob) ↔ SharesWhole store templateId newJob := by
  obtain ⟨dropped, hrecorded, htemplates, hjobs⟩ := addFutureJob_spec store templateId newJob
  have hc := h.consistent_iff.2 hn
  have hreplaced : ∀ entry : UInt64 × UInt32,
      (decide (entry.1 ≠ templateId) && decide (entry.2 ≠ Job.getJobId newJob)) = false ↔
        entry.1 = templateId ∨ entry.2 = Job.getJobId newJob := by
    intro entry
    rw [Bool.and_eq_false_iff, decide_eq_false_iff_not, decide_eq_false_iff_not, not_not, not_not]
  have htemplatesIff : (∀ t,
      ((store.addFutureJob templateId newJob).futureTemplateToJobId.lookup t).isSome →
        t ∈ (store.addFutureJob templateId newJob).futureOrder.map Prod.fst) ↔
      ∀ entry ∈ store.futureOrder, entry.1 = templateId ∨ entry.2 = Job.getJobId newJob →
        entry.1 = templateId := by
    rw [forall_dropped_iff htemplates, ← List.map_append, ← hrecorded]
    simp only [← hreplaced]
    exact hc.templates.forall_recorded_iff _ (templateId, Job.getJobId newJob) _
  have hjobsIff : (∀ id, ((store.addFutureJob templateId newJob).futureJobs.lookup id).isSome →
        id ∈ (store.addFutureJob templateId newJob).futureOrder.map Prod.snd) ↔
      ∀ entry ∈ store.futureOrder, entry.1 = templateId ∨ entry.2 = Job.getJobId newJob →
        entry.2 = Job.getJobId newJob := by
    rw [forall_dropped_iff hjobs, ← List.map_append, ← hrecorded]
    simp only [← hreplaced]
    exact hc.futureJobs.forall_recorded_iff _ (templateId, Job.getJobId newJob) _
  constructor
  · intro hn' entry hentry
    exact ⟨fun heq => hjobsIff.1 hn'.futureJobs entry hentry (.inl heq),
      fun heq => htemplatesIff.1 hn'.templates entry hentry (.inr heq)⟩
  · intro hwhole
    constructor
    · refine htemplatesIff.2 fun entry hentry hshares => ?_
      exact hshares.elim id (hwhole entry hentry).2
    · refine hjobsIff.2 fun entry hentry hshares => ?_
      exact hshares.elim (hwhole entry hentry).1 id

omit [Job T] in
/-- A store without future jobs. -/
theorem Ordered.clearFutures (h : Ordered store) (activeJob : Option T) :
    Ordered { store with
      activeJob := activeJob, futureJobs := ∅, futureTemplateToJobId := ∅, futureOrder := [] } where
  templates_nodup := .nil
  jobs_nodup := .nil
  futures_le := Nat.zero_le _
  templates _ hentry := absurd hentry List.not_mem_nil
  futureJobs _ hentry := absurd hentry List.not_mem_nil
  pastJobs := h.pastJobs
  pasts_le := h.pasts_le
  staleJobs := h.staleJobs
  stales_le := h.stales_le

/-- An activation forgets nothing, and where nothing was forgotten it changes nothing if it
fails. -/
theorem Ordered.activateFutureJob (h : Ordered store) (templateId : UInt64) (timestamp : UInt32) :
    Ordered (store.activateFutureJob templateId timestamp).2 ∧
      (NoOrphans store → NoOrphans (store.activateFutureJob templateId timestamp).2 ∧
        ((store.activateFutureJob templateId timestamp).1 = false →
          (store.activateFutureJob templateId timestamp).2 = store)) := by
  unfold BoundedJobStore.activateFutureJob
  cases hid : store.futureTemplateToJobId.lookup templateId with
  | none => exact ⟨h, fun hn => ⟨hn, fun _ => rfl⟩⟩
  | some id =>
    dsimp only
    cases hjob : store.futureJobs.lookup id with
    | none =>
      -- An entry of the order would lead to a job.
      have hnot : templateId ∉ store.futureOrder.map Prod.fst := by
        intro hmem
        obtain ⟨entry, hentry, rfl⟩ := List.mem_map.1 hmem
        rw [h.templates entry hentry, Option.some.injEq] at hid
        have hsome := h.futureJobs entry hentry
        rw [hid, hjob] at hsome
        cases hsome
      constructor
      · refine { h with templates := fun entry hentry => ?_ }
        have hne : entry.1 ≠ templateId := by
          rintro rfl
          exact hnot (List.mem_map_of_mem hentry)
        rw [lookup_erase_if, if_neg hne]
        exact h.templates entry hentry
      · intro hn
        exact absurd (hn.templates templateId (by rw [hid]; rfl)) hnot
    | some job =>
      have hcleared := h.displaceActiveJob.1.clearFutures (some (Job.activate job timestamp))
      constructor
      · exact hcleared.markPastJobsAsStale.1
      · intro _
        refine ⟨hcleared.markPastJobsAsStale.2 ⟨nofun, nofun⟩, fun hfails => ?_⟩
        cases hfails

/-! ## Runs -/

/-- **What one operation preserves.** -/
theorem Ordered.apply (h : Ordered store) (op : JobOp T) : Ordered (store.apply op) := by
  cases op with
  | addFutureJob templateId newJob => exact h.addFutureJob templateId newJob
  | addActiveJob job => exact { h.displaceActiveJob.1 with }
  | activateFutureJob templateId timestamp => exact (h.activateFutureJob templateId timestamp).1
  | markPastJobsAsStale => exact h.markPastJobsAsStale.1

end BoundedJobStore

open BoundedJobStore

/-- What an operation adds shares a template or a job with an entry of the order only as a
whole. -/
def AddsWhole (store : BoundedJobStore T) : JobOp T → Prop
  | .addFutureJob templateId newJob => store.SharesWhole templateId newJob
  | _ => True

instance (store : BoundedJobStore T) (op : JobOp T) : Decidable (AddsWhole store op) :=
  match op with
  | .addFutureJob templateId newJob =>
    inferInstanceAs (Decidable (store.SharesWhole templateId newJob))
  | .addActiveJob _ | .activateFutureJob _ _ | .markPastJobsAsStale => .isTrue trivial

/-- A step leads to a consistent store, and a failed activation changes nothing. -/
structure StaysConsistent (t : Transition (BoundedJobStore T) (JobOp T)) : Prop where
  consistent : t.after.Consistent
  failed : ∀ templateId timestamp, t.action = .activateFutureJob templateId timestamp →
    (t.before.activateFutureJob templateId timestamp).1 = false → t.after = t.before

namespace BoundedJobStore

variable {store store' : BoundedJobStore T} {op : JobOp T}

/-- An operation forgets nothing exactly if it adds as a whole. -/
theorem Ordered.noOrphans_apply_iff (h : Ordered store) (hn : NoOrphans store) (op : JobOp T) :
    NoOrphans (store.apply op) ↔ AddsWhole store op := by
  cases op with
  | addFutureJob templateId newJob => exact h.noOrphans_addFutureJob_iff hn templateId newJob
  | addActiveJob job =>
    have hdisplaced := h.displaceActiveJob.2 hn
    exact iff_of_true ⟨hdisplaced.templates, hdisplaced.futureJobs⟩ trivial
  | activateFutureJob templateId timestamp =>
    exact iff_of_true ((h.activateFutureJob templateId timestamp).2 hn).1 trivial
  | markPastJobsAsStale => exact iff_of_true (h.markPastJobsAsStale.2 hn) trivial

end BoundedJobStore

/-- **The store stays bounded and consistent** in a run exactly if every added future job
that repeats the template or the job id of a listed entry repeats both. -/
theorem staysConsistent_iff_addsWhole {ts : List (Transition (BoundedJobStore T) (JobOp T))}
    {s : BoundedJobStore T} (hrun : Run (· = BoundedJobStore.new) StoreStep ts s) :
    (∀ t ∈ ts, StaysConsistent t) ↔ ∀ t ∈ ts, AddsWhole t.before t.action := by
  have hstart : ∀ store : BoundedJobStore T, store = BoundedJobStore.new →
      Ordered store ∧ NoOrphans store := by
    rintro _ rfl
    exact ⟨ordered_new, noOrphans_new⟩
  have hstep : ∀ (store : BoundedJobStore T) (op : JobOp T) (store' : BoundedJobStore T),
      Ordered store → StoreStep store op store' → Ordered store' := by
    rintro store op _ h rfl
    exact h.apply op
  have hguard : ∀ (store : BoundedJobStore T) (op : JobOp T) (store' : BoundedJobStore T),
      Ordered store → NoOrphans store → StoreStep store op store' →
        (NoOrphans store' ↔ AddsWhole store op) := by
    rintro store op _ h hn rfl
    exact h.noOrphans_apply_iff hn op
  constructor
  · intro h
    refine (hrun.forall_good_iff_guard hstart hstep hguard).1 fun t ht => ?_
    have hordered := hrun.forall_transition_of (P := fun _ => True) (fun _ h => (hstart _ h).1)
      (fun store op store' h hs _ => hstep store op store' h hs) fun _ _ => trivial
    exact (hordered t ht).2.2.consistent_iff.1 (h t ht).consistent
  · intro h t ht
    have hgood := hrun.forall_transition_of (I := fun store => Ordered store ∧ NoOrphans store)
      hstart (fun store op store' hi hs hadds => ⟨hstep store op store' hi.1 hs,
        (hguard store op store' hi.1 hi.2 hs).2 hadds⟩) h
    obtain ⟨⟨hbefore, hnone⟩, hs, hafter, hnone'⟩ := hgood t ht
    refine ⟨hafter.consistent_iff.2 hnone', fun templateId timestamp haction hfails => ?_⟩
    rw [← hs, haction]
    exact ((hbefore.activateFutureJob templateId timestamp).2 hnone).2 hfails

/-! ## Repeated future jobs -/

/-- The step that an operation takes. -/
theorem storeStep_apply (store : BoundedJobStore T) (op : JobOp T) :
    StoreStep store op (store.apply op) := rfl

/-- A future job that is told twice, another one, and the activation of the first. -/
def JobOp.retellOps : List (JobOp TestJob) :=
  [.addFutureJob 10 ⟨1, none⟩, .addFutureJob 10 ⟨1, none⟩, .addFutureJob 11 ⟨2, none⟩,
    .activateFutureJob 10 7]

theorem staysConsistent_retellOps :
    ∃ (ts : List (Transition (BoundedJobStore TestJob) (JobOp TestJob))) (s : _),
      Run (· = BoundedJobStore.new) StoreStep ts s ∧ ts.map (·.action) = JobOp.retellOps ∧
        ∀ t ∈ ts, StaysConsistent t := by
  have hstart : Run (· = (BoundedJobStore.new : BoundedJobStore TestJob)) StoreStep [] _ :=
    .start rfl
  have hrun := (((hstart.next (storeStep_apply _ (.addFutureJob 10 ⟨1, none⟩))).next
    (storeStep_apply _ (.addFutureJob 10 ⟨1, none⟩))).next
    (storeStep_apply _ (.addFutureJob 11 ⟨2, none⟩))).next
    (storeStep_apply _ (.activateFutureJob 10 7))
  refine ⟨_, _, hrun, rfl, (staysConsistent_iff_addsWhole hrun).2 ?_⟩
  simp only [List.nil_append, List.cons_append, List.forall_mem_cons]
  exact ⟨by decide, by decide, by decide, by decide, fun t ht => absurd ht List.not_mem_nil⟩

/-- **Orphaned jobs pile up.**  The template of a future job comes with another job, twice:
the two older jobs stay, and no pruning reaches them. -/
theorem staysConsistent_fails_sameTemplate :
    ¬ ∀ (ts : List (Transition (BoundedJobStore TestJob) (JobOp TestJob))) s,
      Run (· = BoundedJobStore.new) StoreStep ts s → ∀ t ∈ ts, StaysConsistent t := by
  intro hall
  have hstart : Run (· = (BoundedJobStore.new : BoundedJobStore TestJob)) StoreStep [] _ :=
    .start rfl
  have hrun := ((hstart.next (storeStep_apply _ (.addFutureJob 10 ⟨1, none⟩))).next
    (storeStep_apply _ (.addFutureJob 10 ⟨2, none⟩))).next
    (storeStep_apply _ (.addFutureJob 10 ⟨3, none⟩))
  have hlast := hall _ _ hrun _ (List.mem_append_right _ (List.mem_singleton_self _))
  have hle := hlast.consistent.futureJobs_le
  revert hle
  decide

end CanaryMining
