import CanaryMining.JobStore
import CanaryMining.Lib.Window
import Mathlib.Algebra.Order.Group.Multiset

/-!
# The windows of the job store

`BoundedJobStore` is meant to answer like a store that never forgets a job, except
that only the newest few jobs of each category are seen.  The unbounded store is
`JobLog`: lists that only grow until an activation or a staling moves their jobs on.
The maps and the order vectors of the bounded store hold the windows of these lists.

## Main definitions

* `JobOp` — an operation on a store, `BoundedJobStore.after` and `JobLog.after`.
* `JobLog` — every job, in the order in which it entered its category.
* `JobLog.Windows` — the bounded store holds the windows of the log.
* `JobLog.Answers` — what the bounded store answers, in terms of the log.
-/

namespace CanaryMining

/-- An operation that changes a store. -/
inductive JobOp (T : Type) where
  | addFutureJob (templateId : UInt64) (newJob : T)
  | addActiveJob (job : T)
  | activateFutureJob (templateId : UInt64) (prevHashHeaderTimestamp : UInt32)
  | markPastJobsAsStale

/-- Every job, in the order in which it entered its category: the future jobs since the
last activation, the past ones since the last staling. -/
structure JobLog (T : Type) where
  futures : List (UInt64 × T)
  active : Option T
  past : List T
  stale : List T

variable {T : Type} [Job T]

namespace BoundedJobStore

/-- The store after an operation. -/
def apply (store : BoundedJobStore T) : JobOp T → BoundedJobStore T
  | .addFutureJob templateId newJob => store.addFutureJob templateId newJob
  | .addActiveJob job => store.addActiveJob job
  | .activateFutureJob templateId timestamp => (store.activateFutureJob templateId timestamp).2
  | .markPastJobsAsStale => store.markPastJobsAsStale

/-- A new store after some operations. -/
def after (ops : List (JobOp T)) : BoundedJobStore T := ops.foldl apply new

end BoundedJobStore

namespace JobOp

/-- The ids of the jobs that an operation adds. -/
def jobIds : JobOp T → List UInt32
  | .addFutureJob _ newJob => [Job.getJobId newJob]
  | .addActiveJob job => [Job.getJobId job]
  | _ => []

omit [Job T] in
/-- The ids of the templates that an operation adds. -/
def templateIds : JobOp T → List UInt64
  | .addFutureJob templateId _ => [templateId]
  | _ => []

/-- Every added job has a fresh id, and so has every future template. -/
def Fresh (ops : List (JobOp T)) : Prop :=
  (ops.flatMap jobIds).Nodup ∧ (ops.flatMap templateIds).Nodup

end JobOp

namespace JobLog

/-- The log of a new store. -/
def new : JobLog T := ⟨[], none, [], []⟩

/-- The future jobs that can still be activated. -/
def window (log : JobLog T) : List (UInt64 × T) := log.futures.rtake maxFutureJobs

/-- The past jobs, once the active job is displaced. -/
def displaced (log : JobLog T) : List T := log.past ++ log.active.toList

/-- The log after an operation. -/
def apply (log : JobLog T) : JobOp T → JobLog T
  | .addFutureJob templateId newJob => { log with futures := log.futures ++ [(templateId, newJob)] }
  | .addActiveJob job => { log with active := some job, past := log.displaced }
  | .activateFutureJob templateId timestamp =>
    match log.window.find? (fun entry => entry.1 = templateId) with
    | some entry =>
      { futures := []
        active := some (Job.activate entry.2 timestamp)
        past := []
        stale := log.stale ++ log.displaced }
    | none => log
  | .markPastJobsAsStale => { log with past := [], stale := log.stale ++ log.past }

/-- The log after some operations. -/
def after (ops : List (JobOp T)) : JobLog T := ops.foldl apply new

/-- The ids of all jobs in the log. -/
def jobIds (log : JobLog T) : Multiset UInt32 :=
  ↑(log.futures.map fun entry => Job.getJobId entry.2) + ↑(log.active.toList.map Job.getJobId) +
    ↑(log.past.map Job.getJobId) + ↑(log.stale.map Job.getJobId)

/-- The ids of all future templates in the log. -/
def templateIds (log : JobLog T) : Multiset UInt64 := ↑(log.futures.map Prod.fst)

open AssocMap in
/-- The bounded store holds the windows of the log. -/
structure Windows (log : JobLog T) (store : BoundedJobStore T) : Prop where
  futureOrder : store.futureOrder = log.window.map fun entry => (entry.1, Job.getJobId entry.2)
  futureTemplateToJobId :
    Indexes Prod.fst (fun entry => Job.getJobId entry.2) log.window store.futureTemplateToJobId
  futureJobs : Indexes (fun entry => Job.getJobId entry.2) Prod.snd log.window store.futureJobs
  activeJob : store.activeJob = log.active
  pastOrder : store.pastOrder = (log.past.rtake maxPastJobs).map Job.getJobId
  pastJobs : Indexes Job.getJobId id (log.past.rtake maxPastJobs) store.pastJobs
  staleOrder : store.staleOrder = (log.stale.rtake maxStaleJobs).map Job.getJobId
  staleJobs : Indexes Job.getJobId id (log.stale.rtake maxStaleJobs) store.staleJobs

/-- What the bounded store answers, in terms of the log. -/
structure Answers (log : JobLog T) (store : BoundedJobStore T) : Prop where
  activate_iff : ∀ templateId timestamp, (store.activateFutureJob templateId timestamp).1 = true ↔
    templateId ∈ log.window.map Prod.fst
  activate_fails : ∀ templateId timestamp,
    (store.activateFutureJob templateId timestamp).1 = false →
      (store.activateFutureJob templateId timestamp).2 = store
  futureJobId : ∀ templateId jobId,
    store.getFutureJobIdFromTemplateId templateId = some jobId ↔
      ∃ job, (templateId, job) ∈ log.window ∧ Job.getJobId job = jobId
  futureJob : ∀ jobId job, store.getFutureJob jobId = some job ↔
    ∃ templateId, (templateId, job) ∈ log.window ∧ Job.getJobId job = jobId
  activeJob : store.getActiveJob = log.active
  pastJob : ∀ jobId job, store.getPastJob jobId = some job ↔
    job ∈ log.past.rtake maxPastJobs ∧ Job.getJobId job = jobId
  staleJob : ∀ jobId job, store.getStaleJob jobId = some job ↔
    log.stale.getLast? = some job ∧ Job.getJobId job = jobId
  one_category : ∀ jobId,
    [(store.getFutureJob jobId).isSome,
      store.getActiveJob.any fun job => decide (Job.getJobId job = jobId),
      (store.getPastJob jobId).isSome,
      (store.getStaleJob jobId).isSome].count true ≤ 1

end JobLog

/-! ## What one operation does to the windows -/

section Prune

variable {A K V : Type} [DecidableEq K] {key : A → K} {value : A → V} {l : List A}
  {m : AssocMap K V} {cap : ℕ}

omit [DecidableEq K] in
/-- Pruning leaves the order of a window. -/
theorem dropOldest_map_fst {M : Type} {remove : K → M → M} (maps : M) :
    (dropOldest cap remove (l.map key) maps).1 = (l.rtake cap).map key := by
  rw [dropOldest_fst, List.length_map, ← List.map_drop, List.rtake]

/-- Pruning leaves the entries of a window. -/
theorem AssocMap.Indexes.dropOldest (h : AssocMap.Indexes key value l m) (cap : ℕ)
    (hnodup : (l.map key).Nodup) :
    AssocMap.Indexes key value (l.rtake cap) (dropOldest cap AList.erase (l.map key) m).2 := by
  rw [dropOldest_snd, List.length_map, ← List.map_take]
  exact h.drop hnodup _

/-- A new entry is the newest of its window. -/
theorem rtake_append_singleton (cap : ℕ) (l : List A) (x : A) (hcap : 0 < cap) :
    (l.rtake cap ++ [x]).rtake cap = (l ++ [x]).rtake cap := by
  have hx : [x].rtake cap = [x] := by
    have hzero : [x].length - cap = 0 := by simp; omega
    rw [List.rtake, hzero, List.drop_zero]
  rw [← rtake_rtake_append l [x] le_rfl, hx]

/-- Nothing is filtered out of an order that does not have the id. -/
theorem filter_ne_eq_self {ids : List K} {id : K} (h : id ∉ ids) : ids.filter (· ≠ id) = ids := by
  rw [List.filter_eq_self]
  intro id' hid'
  exact decide_eq_true fun heq => h (heq ▸ hid')

theorem find?_fst_eq_none {entries : List (K × V)} {k : K} :
    entries.find? (fun entry => entry.1 = k) = none ↔ k ∉ entries.map Prod.fst := by
  simp only [List.find?_eq_none, decide_eq_true_eq, List.mem_map, not_exists, not_and]

/-- Where each test that holds takes one of a total of one, one test holds at most. -/
theorem count_true_le_one {b₁ b₂ b₃ b₄ : Bool} {n₁ n₂ n₃ n₄ : ℕ} (h₁ : b₁ = true → 0 < n₁)
    (h₂ : b₂ = true → 0 < n₂) (h₃ : b₃ = true → 0 < n₃) (h₄ : b₄ = true → 0 < n₄)
    (hsum : n₁ + n₂ + n₃ + n₄ ≤ 1) : [b₁, b₂, b₃, b₄].count true ≤ 1 := by
  cases b₁ <;> cases b₂ <;> cases b₃ <;> cases b₄ <;> simp at * <;> omega

end Prune

namespace JobLog

open BoundedJobStore

variable {log : JobLog T} {store : BoundedJobStore T} {job : T}

theorem windows_new : Windows (new : JobLog T) BoundedJobStore.new where
  futureOrder := rfl
  futureTemplateToJobId := AssocMap.Indexes.empty _ _
  futureJobs := AssocMap.Indexes.empty _ _
  activeJob := rfl
  pastOrder := rfl
  pastJobs := AssocMap.Indexes.empty _ _
  staleOrder := rfl
  staleJobs := AssocMap.Indexes.empty _ _

/-- A past job is added to its window. -/
theorem Windows.insertPastJob (h : Windows log store)
    (hnodup : ((log.past ++ [job]).map Job.getJobId).Nodup) :
    Windows { log with past := log.past ++ [job] } (store.insertPastJob job) := by
  have hpast : ((log.past.rtake maxPastJobs ++ [job]).map Job.getJobId).Nodup := by
    refine hnodup.sublist (List.Sublist.map _ ?_)
    exact (rtake_sublist _).append_right _
  have hfresh : Job.getJobId job ∉ (log.past.rtake maxPastJobs).map Job.getJobId := by
    rw [List.map_append, List.nodup_append] at hpast
    intro hmem
    exact hpast.2.2 _ hmem _ (List.mem_singleton_self _) rfl
  have horder : store.pastOrder.filter (· ≠ Job.getJobId job) ++ [Job.getJobId job] =
      (log.past.rtake maxPastJobs ++ [job]).map Job.getJobId := by
    rw [h.pastOrder, filter_ne_eq_self hfresh, List.map_append, List.map_singleton]
  have hwindow := rtake_append_singleton maxPastJobs log.past job (by decide)
  refine ⟨h.futureOrder, h.futureTemplateToJobId, h.futureJobs, h.activeJob, ?_, ?_,
    h.staleOrder, h.staleJobs⟩
  · simp only [BoundedJobStore.insertPastJob, prunePastJobs, horder, dropOldest_map_fst, hwindow]
  · have hindexes := (h.pastJobs.insert hfresh).dropOldest maxPastJobs hpast
    rw [hwindow] at hindexes
    simpa only [BoundedJobStore.insertPastJob, prunePastJobs, horder, id_eq] using hindexes

/-- A displaced active job is added to the window of the past ones. -/
theorem Windows.displaceActiveJob (h : Windows log store)
    (hnodup : (log.displaced.map Job.getJobId).Nodup) :
    Windows { log with active := none, past := log.displaced } store.displaceActiveJob := by
  cases hactive : log.active with
  | none =>
    have hstore : store.displaceActiveJob = store := by
      simp [BoundedJobStore.displaceActiveJob, h.activeJob, hactive]
    have hlog : ({ log with active := none, past := log.displaced } : JobLog T) = log := by
      obtain ⟨futures, active, past, stale⟩ := log
      simp only at hactive
      simp [displaced, hactive]
    rw [hstore, hlog]
    exact h
  | some job =>
    have hstore : store.displaceActiveJob =
        BoundedJobStore.insertPastJob { store with activeJob := none } job := by
      simp [BoundedJobStore.displaceActiveJob, h.activeJob, hactive]
    have hpast : log.displaced = log.past ++ [job] := by simp [displaced, hactive]
    have hnone : Windows { log with active := none } { store with activeJob := none } :=
      { h with activeJob := rfl }
    rw [hpast] at hnodup
    rw [hstore, hpast]
    exact hnone.insertPastJob hnodup

/-- The loop of `mark_past_jobs_as_stale` appends the past jobs to the stale ones. -/
theorem foldl_markAsStale (store : BoundedJobStore T) {jobs stale : List T}
    (hpast : AssocMap.Indexes Job.getJobId id jobs store.pastJobs)
    (hstale : AssocMap.Indexes Job.getJobId id stale store.staleJobs)
    (horder : store.staleOrder = stale.map Job.getJobId)
    (hnodup : ((stale ++ jobs).map Job.getJobId).Nodup) :
    ∃ past' stale', AssocMap.Indexes Job.getJobId id (stale ++ jobs) stale' ∧
      (jobs.map Job.getJobId).foldl markAsStale store =
        { store with
          pastJobs := past'
          staleJobs := stale'
          staleOrder := (stale ++ jobs).map Job.getJobId } := by
  induction jobs generalizing stale store with
  | nil =>
    refine ⟨store.pastJobs, store.staleJobs, ?_, ?_⟩
    · rwa [List.append_nil]
    · rw [List.append_nil, ← horder]
      rfl
  | cons job jobs ih =>
    have hlookup : store.pastJobs.lookup (Job.getJobId job) = some job :=
      hpast.lookup_eq List.mem_cons_self
    have hfresh : Job.getJobId job ∉ stale.map Job.getJobId := by
      rw [List.map_append, List.nodup_append] at hnodup
      intro hmem
      exact hnodup.2.2 _ hmem _ List.mem_cons_self rfl
    have hjobs : ((job :: jobs).map Job.getJobId).Nodup := by
      rw [List.map_append, List.nodup_append] at hnodup
      exact hnodup.2.1
    have hsplit : stale ++ job :: jobs = stale ++ [job] ++ jobs := by simp
    have hmark : store.markAsStale (Job.getJobId job) =
        { store with
          pastJobs := store.pastJobs.erase (Job.getJobId job)
          staleJobs := store.staleJobs.insert (Job.getJobId job) job
          staleOrder := (stale ++ [job]).map Job.getJobId } := by
      simp only [markAsStale, hlookup, horder, filter_ne_eq_self hfresh, List.map_append,
        List.map_singleton]
    rw [hsplit] at hnodup ⊢
    rw [List.map_cons, List.foldl_cons, hmark]
    exact ih _ (hpast.erase_head hjobs) (hstale.insert hfresh) rfl hnodup

/-- Staling moves the past jobs to the stale ones, of which only the last is kept. -/
theorem Windows.markPastJobsAsStale (h : Windows log store)
    (hnodup : ((log.stale ++ log.past).map Job.getJobId).Nodup) :
    Windows { log with past := [], stale := log.stale ++ log.past }
      store.markPastJobsAsStale := by
  have hkept : ((log.stale.rtake maxStaleJobs ++ log.past.rtake maxPastJobs).map
      Job.getJobId).Nodup := by
    refine hnodup.sublist (List.Sublist.map _ ?_)
    exact (rtake_sublist _).append (rtake_sublist _)
  have hwindow : (log.stale.rtake maxStaleJobs ++ log.past.rtake maxPastJobs).rtake maxStaleJobs =
      (log.stale ++ log.past).rtake maxStaleJobs := rtake_rtake_append _ _ (by decide)
  obtain ⟨past', stale', hstale, hfold⟩ := foldl_markAsStale
    { store with pastOrder := [] } h.pastJobs h.staleJobs h.staleOrder hkept
  have hindexes := hstale.dropOldest maxStaleJobs hkept
  rw [hwindow] at hindexes
  have hmark : store.markPastJobsAsStale = BoundedJobStore.pruneStaleJobs
      { store with
        pastOrder := []
        pastJobs := ∅
        staleJobs := stale'
        staleOrder := (log.stale.rtake maxStaleJobs ++ log.past.rtake maxPastJobs).map
          Job.getJobId } := by
    rw [BoundedJobStore.markPastJobsAsStale, h.pastOrder, hfold]
  rw [hmark]
  refine ⟨h.futureOrder, h.futureTemplateToJobId, h.futureJobs, h.activeJob, rfl,
    AssocMap.Indexes.empty _ _, ?_, hindexes⟩
  simp only [pruneStaleJobs, dropOldest_map_fst, hwindow]

/-- A future job is added to its window. -/
theorem Windows.addFutureJob (h : Windows log store) {templateId : UInt64}
    (hids : ((log.futures ++ [(templateId, job)]).map fun e => Job.getJobId e.2).Nodup)
    (htemplates : ((log.futures ++ [(templateId, job)]).map Prod.fst).Nodup) :
    Windows { log with futures := log.futures ++ [(templateId, job)] }
      (store.addFutureJob templateId job) := by
  have hsublist : (log.window ++ [(templateId, job)]).Sublist
      (log.futures ++ [(templateId, job)]) := (rtake_sublist _).append_right _
  replace hids := hids.sublist (hsublist.map fun e => Job.getJobId e.2)
  replace htemplates := htemplates.sublist (hsublist.map Prod.fst)
  have hid : Job.getJobId job ∉ log.window.map fun e => Job.getJobId e.2 := by
    rw [List.map_append, List.nodup_append] at hids
    intro hmem
    exact hids.2.2 _ hmem _ (List.mem_singleton_self _) rfl
  have htemplate : templateId ∉ log.window.map Prod.fst := by
    rw [List.map_append, List.nodup_append] at htemplates
    intro hmem
    exact htemplates.2.2 _ hmem _ (List.mem_singleton_self _) rfl
  have horder : store.futureOrder.filter (fun entry =>
        decide (entry.1 ≠ templateId) && decide (entry.2 ≠ Job.getJobId job)) ++
          [(templateId, Job.getJobId job)] =
      (log.window ++ [(templateId, job)]).map fun e => (e.1, Job.getJobId e.2) := by
    have hall : ∀ entry ∈ store.futureOrder,
        (decide (entry.1 ≠ templateId) && decide (entry.2 ≠ Job.getJobId job)) = true := by
      intro entry hentry
      rw [h.futureOrder] at hentry
      obtain ⟨e, he, rfl⟩ := List.mem_map.1 hentry
      rw [Bool.and_eq_true, decide_eq_true_eq, decide_eq_true_eq]
      constructor
      · intro heq
        exact htemplate (heq ▸ List.mem_map_of_mem he)
      · intro heq
        exact hid (List.mem_map.2 ⟨e, he, heq⟩)
    rw [List.filter_eq_self.2 hall, h.futureOrder, List.map_append, List.map_singleton]
  have hwindow : (log.window ++ [(templateId, job)]).rtake maxFutureJobs =
      (log.futures ++ [(templateId, job)]).rtake maxFutureJobs :=
    rtake_append_singleton _ log.futures _ (by decide)
  have hfst := (h.futureTemplateToJobId.insert (x := (templateId, job)) htemplate).dropOldest
    maxFutureJobs htemplates
  have hsnd := (h.futureJobs.insert (x := (templateId, job)) hid).dropOldest
    maxFutureJobs hids
  rw [hwindow] at hfst hsnd
  refine ⟨?_, ?_, ?_, h.activeJob, h.pastOrder, h.pastJobs, h.staleOrder, h.staleJobs⟩
  · simp only [BoundedJobStore.addFutureJob, pruneFutureJobs, horder, dropOldest_map_fst]
    exact congrArg _ hwindow
  · simp only [BoundedJobStore.addFutureJob, pruneFutureJobs, horder]
    rw [dropOldest_prod, List.map_map]
    exact hfst
  · simp only [BoundedJobStore.addFutureJob, pruneFutureJobs, horder]
    rw [dropOldest_prod, List.map_map, List.map_map]
    exact hsnd

/-- What an activation does depends on whether the template is in the window. -/
theorem Windows.activateFutureJob_eq (h : Windows log store) (templateId : UInt64)
    (timestamp : UInt32) :
    store.activateFutureJob templateId timestamp =
      match log.window.find? (fun entry => entry.1 = templateId) with
      | some entry => (true, BoundedJobStore.markPastJobsAsStale
          { store.displaceActiveJob with
            activeJob := some (Job.activate entry.2 timestamp)
            futureJobs := ∅
            futureTemplateToJobId := ∅
            futureOrder := [] })
      | none => (false, store) := by
  cases hfind : log.window.find? (fun entry => entry.1 = templateId) with
  | none =>
    have hlookup : store.futureTemplateToJobId.lookup templateId = none :=
      h.futureTemplateToJobId.lookup_eq_none (find?_fst_eq_none.1 hfind)
    simp only [BoundedJobStore.activateFutureJob, hlookup]
  | some entry =>
    have hentry : entry ∈ log.window := List.mem_of_find?_eq_some hfind
    have heq : entry.1 = templateId := by simpa using List.find?_some hfind
    subst heq
    have hlookup := h.futureTemplateToJobId.lookup_eq hentry
    have hjob := h.futureJobs.lookup_eq hentry
    simp only [BoundedJobStore.activateFutureJob, hlookup, hjob]

/-- After an activation the future windows are empty and the displaced jobs stale. -/
theorem Windows.activateFutureJob (h : Windows log store) (templateId : UInt64)
    (timestamp : UInt32) (hnodup : ((log.stale ++ log.displaced).map Job.getJobId).Nodup) :
    Windows (log.apply (.activateFutureJob templateId timestamp))
      (store.activateFutureJob templateId timestamp).2 := by
  rw [h.activateFutureJob_eq]
  simp only [apply]
  cases log.window.find? (fun entry => entry.1 = templateId) with
  | none => exact h
  | some entry =>
    have hdisplaced := h.displaceActiveJob <|
      hnodup.sublist ((List.sublist_append_right _ _).map Job.getJobId)
    have hcleared : Windows
        { futures := []
          active := some (Job.activate entry.2 timestamp)
          past := log.displaced
          stale := log.stale }
        { store.displaceActiveJob with
          activeJob := some (Job.activate entry.2 timestamp)
          futureJobs := ∅
          futureTemplateToJobId := ∅
          futureOrder := [] } :=
      { hdisplaced with
        futureOrder := rfl
        futureTemplateToJobId := AssocMap.Indexes.empty _ _
        futureJobs := AssocMap.Indexes.empty _ _
        activeJob := rfl }
    exact hcleared.markPastJobsAsStale hnodup

/-! ## Runs of operations -/

/-- No operation makes up a job id, as long as an activation keeps the id of the job. -/
theorem jobIds_apply_le (hactivate : ∀ (job : T) timestamp,
      Job.getJobId (Job.activate job timestamp) = Job.getJobId job) (log : JobLog T)
    (op : JobOp T) : (log.apply op).jobIds ≤ log.jobIds + ↑op.jobIds := by
  rw [Multiset.le_iff_count]
  intro jobId
  cases op with
  | addFutureJob templateId newJob =>
    simp only [apply, jobIds, JobOp.jobIds, List.map_append, List.map_singleton,
      Multiset.count_add, Multiset.coe_count, List.count_append]
    omega
  | addActiveJob job =>
    simp only [apply, jobIds, JobOp.jobIds, displaced, List.map_append, Option.toList_some,
      List.map_singleton, Multiset.count_add, Multiset.coe_count, List.count_append]
    omega
  | activateFutureJob templateId timestamp =>
    simp only [apply]
    cases hfind : log.window.find? (fun entry => entry.1 = templateId) with
    | none => exact Multiset.count_le_of_le _ (Multiset.le_add_right _ _)
    | some entry =>
      have hentry : entry ∈ log.futures := rtake_subset _ (List.mem_of_find?_eq_some hfind)
      have hcount : [Job.getJobId entry.2].count jobId ≤
          (log.futures.map fun e => Job.getJobId e.2).count jobId := by
        apply List.Sublist.count_le
        rw [List.singleton_sublist]
        exact List.mem_map.2 ⟨entry, hentry, rfl⟩
      simp only [jobIds, JobOp.jobIds, displaced, List.map_append, Option.toList_some, hactivate,
        List.map_singleton, List.map_nil, Multiset.count_add, Multiset.coe_count,
        List.count_append, List.count_nil]
      omega
  | markPastJobsAsStale =>
    simp only [apply, jobIds, JobOp.jobIds, List.map_append, List.map_nil, Multiset.count_add,
      Multiset.coe_count, List.count_append, List.count_nil]
    omega

/-- No operation makes up a template id. -/
theorem templateIds_apply_le (log : JobLog T) (op : JobOp T) :
    (log.apply op).templateIds ≤ log.templateIds + ↑op.templateIds := by
  cases op with
  | addFutureJob templateId newJob =>
    simp only [apply, templateIds, JobOp.templateIds, List.map_append, ← Multiset.coe_add]
    exact le_rfl
  | addActiveJob job => exact Multiset.le_add_right _ _
  | activateFutureJob templateId timestamp =>
    simp only [apply]
    split
    · exact Multiset.zero_le _
    · exact Multiset.le_add_right _ _
  | markPastJobsAsStale => exact Multiset.le_add_right _ _

/-- The ids in the log are ids that were added. -/
theorem jobIds_after_le (hactivate : ∀ (job : T) timestamp,
      Job.getJobId (Job.activate job timestamp) = Job.getJobId job) (ops : List (JobOp T)) :
    (after ops).jobIds ≤ ↑(ops.flatMap JobOp.jobIds) := by
  induction ops using List.reverseRecOn with
  | nil => exact le_rfl
  | append_singleton ops op ih =>
    rw [after, List.foldl_append, List.flatMap_append, ← Multiset.coe_add,
      List.flatMap_singleton]
    exact (jobIds_apply_le hactivate _ op).trans (add_le_add_left ih _)

theorem templateIds_after_le (ops : List (JobOp T)) :
    (after ops).templateIds ≤ ↑(ops.flatMap JobOp.templateIds) := by
  induction ops using List.reverseRecOn with
  | nil => exact le_rfl
  | append_singleton ops op ih =>
    rw [after, List.foldl_append, List.flatMap_append, ← Multiset.coe_add,
      List.flatMap_singleton]
    exact (templateIds_apply_le _ op).trans (add_le_add_left ih _)

/-- The jobs outside the future have distinct ids. -/
theorem nodup_stale_displaced (h : log.jobIds.Nodup) :
    ((log.stale ++ log.displaced).map Job.getJobId).Nodup := by
  rw [← Multiset.coe_nodup]
  refine Multiset.nodup_of_le ?_ h
  rw [Multiset.le_iff_count]
  intro jobId
  simp only [displaced, jobIds, List.map_append, Multiset.count_add, Multiset.coe_count,
    List.count_append]
  omega

/-- **Every operation keeps the windows**, as long as the ids stay distinct. -/
theorem Windows.apply (h : Windows log store) (op : JobOp T) (hids : log.jobIds.Nodup)
    (hids' : (log.apply op).jobIds.Nodup) (htemplates' : (log.apply op).templateIds.Nodup) :
    Windows (log.apply op) (store.apply op) := by
  have hnodup := nodup_stale_displaced hids
  cases op with
  | addFutureJob templateId newJob =>
    refine h.addFutureJob ?_ htemplates'
    rw [← Multiset.coe_nodup]
    refine Multiset.nodup_of_le ?_ hids'
    simp only [JobLog.apply, jobIds, add_assoc]
    exact Multiset.le_add_right _ _
  | addActiveJob job =>
    have hdisplaced := h.displaceActiveJob <|
      hnodup.sublist ((List.sublist_append_right _ _).map Job.getJobId)
    exact { hdisplaced with activeJob := rfl }
  | activateFutureJob templateId timestamp =>
    exact h.activateFutureJob templateId timestamp hnodup
  | markPastJobsAsStale =>
    refine h.markPastJobsAsStale (hnodup.sublist (List.Sublist.map _ ?_))
    exact (List.sublist_append_left _ _).append_left _

/-- After any operations with fresh ids the store holds the windows of the log. -/
theorem windows_after (hactivate : ∀ (job : T) timestamp,
      Job.getJobId (Job.activate job timestamp) = Job.getJobId job) {ops : List (JobOp T)}
    (hfresh : JobOp.Fresh ops) : Windows (after ops) (BoundedJobStore.after ops) := by
  induction ops using List.reverseRecOn with
  | nil => exact windows_new
  | append_singleton ops op ih =>
    have hafter : after (ops ++ [op]) = (after ops).apply op := by simp [after]
    have hids' := Multiset.nodup_of_le (jobIds_after_le hactivate (ops ++ [op])) hfresh.1
    have htemplates' := Multiset.nodup_of_le (templateIds_after_le (ops ++ [op])) hfresh.2
    have hprefix : JobOp.Fresh ops := by
      rw [JobOp.Fresh, List.flatMap_append, List.flatMap_append] at hfresh
      exact ⟨(List.nodup_append.1 hfresh.1).1, (List.nodup_append.1 hfresh.2).1⟩
    have hids := Multiset.nodup_of_le (jobIds_after_le hactivate ops) hprefix.1
    rw [hafter] at hids' htemplates' ⊢
    rw [BoundedJobStore.after, List.foldl_append]
    exact (ih hprefix).apply op hids hids' htemplates'

/-! ## What the bounded store answers -/

theorem getFutureJob_eq_some (h : Windows log store) {jobId : UInt32} :
    store.getFutureJob jobId = some job ↔
      ∃ templateId, (templateId, job) ∈ log.window ∧ Job.getJobId job = jobId := by
  rw [BoundedJobStore.getFutureJob, h.futureJobs]
  constructor
  · intro hmem
    obtain ⟨⟨templateId, job'⟩, hentry, hid, heq⟩ := hmem
    have hjob : job' = job := heq
    subst hjob
    exact ⟨templateId, hentry, hid⟩
  · intro hmem
    obtain ⟨templateId, hentry, hid⟩ := hmem
    exact ⟨(templateId, job), hentry, hid, rfl⟩

theorem getPastJob_eq_some (h : Windows log store) {jobId : UInt32} :
    store.getPastJob jobId = some job ↔
      job ∈ log.past.rtake maxPastJobs ∧ Job.getJobId job = jobId := by
  rw [BoundedJobStore.getPastJob, h.pastJobs]
  simp [and_comm]

theorem getStaleJob_eq_some (h : Windows log store) {jobId : UInt32} :
    store.getStaleJob jobId = some job ↔
      log.stale.getLast? = some job ∧ Job.getJobId job = jobId := by
  have hlast : job ∈ log.stale.rtake maxStaleJobs ↔ log.stale.getLast? = some job := by
    cases hstale : log.stale using List.reverseRecOn with
    | nil => simp [List.rtake]
    | append_singleton stale last => simp [List.rtake, maxStaleJobs, eq_comm]
  rw [BoundedJobStore.getStaleJob, h.staleJobs, ← hlast]
  simp [and_comm]

/-- The id of a job is found in one category at most. -/
theorem one_category (h : Windows log store) (hids : log.jobIds.Nodup) (jobId : UInt32) :
    [(store.getFutureJob jobId).isSome,
      store.getActiveJob.any fun job => decide (Job.getJobId job = jobId),
      (store.getPastJob jobId).isSome,
      (store.getStaleJob jobId).isSome].count true ≤ 1 := by
  have hcount := Multiset.nodup_iff_count_le_one.1 hids jobId
  simp only [jobIds, Multiset.count_add, Multiset.coe_count] at hcount
  have hfuture : (store.getFutureJob jobId).isSome = true →
      0 < (log.futures.map fun e => Job.getJobId e.2).count jobId := by
    intro hsome
    obtain ⟨job, hjob⟩ := Option.isSome_iff_exists.1 hsome
    obtain ⟨templateId, hmem, hid⟩ := (getFutureJob_eq_some h).1 hjob
    exact List.count_pos_iff.2 (List.mem_map.2 ⟨_, rtake_subset _ hmem, hid⟩)
  have hactive : (store.getActiveJob.any fun job => decide (Job.getJobId job = jobId)) = true →
      0 < (log.active.toList.map Job.getJobId).count jobId := by
    intro hany
    rw [BoundedJobStore.getActiveJob, h.activeJob] at hany
    apply List.count_pos_iff.2
    cases hlog : log.active with
    | none => simp [hlog] at hany
    | some job =>
      simp only [hlog, Option.any_some, decide_eq_true_eq] at hany
      simp [hany]
  have hpast : (store.getPastJob jobId).isSome = true →
      0 < (log.past.map Job.getJobId).count jobId := by
    intro hsome
    obtain ⟨job, hjob⟩ := Option.isSome_iff_exists.1 hsome
    obtain ⟨hmem, hid⟩ := (getPastJob_eq_some h).1 hjob
    exact List.count_pos_iff.2 (List.mem_map.2 ⟨_, rtake_subset _ hmem, hid⟩)
  have hstale : (store.getStaleJob jobId).isSome = true →
      0 < (log.stale.map Job.getJobId).count jobId := by
    intro hsome
    obtain ⟨job, hjob⟩ := Option.isSome_iff_exists.1 hsome
    obtain ⟨hlast, hid⟩ := (getStaleJob_eq_some h).1 hjob
    exact List.count_pos_iff.2 (List.mem_map.2 ⟨_, List.mem_of_getLast? hlast, hid⟩)
  exact count_true_le_one hfuture hactive hpast hstale hcount

/-- **The bounded store is the unbounded one restricted to its windows.**  After any
operations with fresh ids, an activation succeeds exactly for the templates in the window
of future jobs and changes nothing otherwise, every question about a job is answered from
the windows, and no job is found in two categories. -/
theorem answers_after (hactivate : ∀ (job : T) timestamp,
      Job.getJobId (Job.activate job timestamp) = Job.getJobId job) (ops : List (JobOp T))
    (hfresh : JobOp.Fresh ops) : Answers (after ops) (BoundedJobStore.after ops) := by
  have h := windows_after hactivate hfresh
  have hids := Multiset.nodup_of_le (jobIds_after_le hactivate ops) hfresh.1
  constructor
  · intro templateId timestamp
    rw [h.activateFutureJob_eq]
    cases hfind : (after ops).window.find? (fun entry => entry.1 = templateId) with
    | none =>
      have hnot := find?_fst_eq_none.1 hfind
      simp [hnot]
    | some entry =>
      have heq : entry.1 = templateId := by simpa using List.find?_some hfind
      simp only [true_iff]
      exact heq ▸ List.mem_map_of_mem (List.mem_of_find?_eq_some hfind)
  · intro templateId timestamp hfails
    rw [h.activateFutureJob_eq] at hfails ⊢
    split at hfails
    · cases hfails
    · rfl
  · intro templateId jobId
    rw [getFutureJobIdFromTemplateId, h.futureTemplateToJobId]
    simp
  · intro jobId job
    exact getFutureJob_eq_some h
  · exact h.activeJob
  · intro jobId job
    exact getPastJob_eq_some h
  · intro jobId job
    exact getStaleJob_eq_some h
  · intro jobId
    exact one_category h hids jobId

end JobLog

/-- The job of the store's own tests. -/
structure TestJob where
  jobId : UInt32
  activatedAt : Option UInt32

instance : Job TestJob where
  getJobId job := job.jobId
  activate job timestamp := { job with activatedAt := some timestamp }

/-- Three future templates, of which the second is activated. -/
def JobOp.testOps : List (JobOp TestJob) :=
  [.addActiveJob ⟨1, none⟩, .addFutureJob 10 ⟨2, none⟩, .addFutureJob 11 ⟨3, none⟩,
    .addFutureJob 12 ⟨4, none⟩, .activateFutureJob 11 7, .addActiveJob ⟨5, none⟩]

namespace JobLog

theorem answers_after_testOps :
    (∀ (job : TestJob) timestamp, Job.getJobId (Job.activate job timestamp) = Job.getJobId job) ∧
      JobOp.Fresh JobOp.testOps ∧
      Answers (after JobOp.testOps) (BoundedJobStore.after JobOp.testOps) := by
  have hactivate (job : TestJob) (timestamp : UInt32) :
      Job.getJobId (Job.activate job timestamp) = Job.getJobId job := rfl
  have hfresh : JobOp.Fresh JobOp.testOps := ⟨by decide, by decide⟩
  exact ⟨hactivate, hfresh, answers_after hactivate JobOp.testOps hfresh⟩

/-- The activated job was displaced last and the first one is stale. -/
example : (after JobOp.testOps).past = [⟨3, some 7⟩] ∧
    (after JobOp.testOps).stale = [⟨1, none⟩] := ⟨rfl, rfl⟩

end JobLog

end CanaryMining
