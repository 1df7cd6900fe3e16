import CanaryMining.Lib.AssocMap

/-!
# The bounded job store

`BoundedJobStore` keeps the jobs of a channel: those of future templates, the
active one, and the past and stale ones that shares may still refer to.  Each of
the three maps has a vector with the order of insertion, and only the newest few
entries are kept.

## Main definitions

* `Job` — what the store asks of a job.
* `BoundedJobStore` and its operations.
* `BoundedJobStore.Holds` — a job is in one of the categories.
-/

namespace CanaryMining

/-- The trait `Job` of the channel library. -/
class Job (T : Type) where
  getJobId : T → UInt32
  activate : T → UInt32 → T

/-- `MAX_FUTURE_JOBS`. -/
def maxFutureJobs : ℕ := 2

/-- `MAX_PAST_JOBS`. -/
def maxPastJobs : ℕ := 2

/-- `MAX_STALE_JOBS`. -/
def maxStaleJobs : ℕ := 1

/-- `BoundedJobStore`. -/
structure BoundedJobStore (T : Type) where
  futureTemplateToJobId : AssocMap UInt64 UInt32
  futureJobs : AssocMap UInt32 T
  futureOrder : List (UInt64 × UInt32)
  activeJob : Option T
  pastJobs : AssocMap UInt32 T
  pastOrder : List UInt32
  staleJobs : AssocMap UInt32 T
  staleOrder : List UInt32

/-- The loops `while order.len() > cap`: the oldest entries leave the order, and
`remove` takes each out of the maps. -/
def dropOldest {A M : Type} (cap : ℕ) (remove : A → M → M) : List A → M → List A × M
  | [], maps => ([], maps)
  | oldest :: order, maps =>
    if cap < (oldest :: order).length then dropOldest cap remove order (remove oldest maps)
    else (oldest :: order, maps)

namespace BoundedJobStore

variable {T : Type} [Job T]

/-- `BoundedJobStore::new`. -/
def new : BoundedJobStore T := ⟨∅, ∅, [], none, ∅, [], ∅, []⟩

instance : Inhabited (BoundedJobStore T) := ⟨new⟩

/-- `prune_future_jobs`. -/
def pruneFutureJobs (store : BoundedJobStore T) : BoundedJobStore T :=
  let remove (entry : UInt64 × UInt32) (maps : AssocMap UInt64 UInt32 × AssocMap UInt32 T) :=
    (maps.1.erase entry.1, maps.2.erase entry.2)
  let pruned := dropOldest maxFutureJobs remove store.futureOrder
    (store.futureTemplateToJobId, store.futureJobs)
  { store with
    futureOrder := pruned.1
    futureTemplateToJobId := pruned.2.1
    futureJobs := pruned.2.2 }

/-- `prune_past_jobs`. -/
def prunePastJobs (store : BoundedJobStore T) : BoundedJobStore T :=
  let pruned := dropOldest maxPastJobs AList.erase store.pastOrder store.pastJobs
  { store with pastOrder := pruned.1, pastJobs := pruned.2 }

/-- `prune_stale_jobs`. -/
def pruneStaleJobs (store : BoundedJobStore T) : BoundedJobStore T :=
  let pruned := dropOldest maxStaleJobs AList.erase store.staleOrder store.staleJobs
  { store with staleOrder := pruned.1, staleJobs := pruned.2 }

/-- `insert_past_job`. -/
def insertPastJob (store : BoundedJobStore T) (job : T) : BoundedJobStore T :=
  let jobId := Job.getJobId job
  prunePastJobs
    { store with
      pastJobs := store.pastJobs.insert jobId job
      pastOrder := store.pastOrder.filter (· ≠ jobId) ++ [jobId] }

/-- `add_future_job`; the id it returns is the job's own. -/
def addFutureJob (store : BoundedJobStore T) (templateId : UInt64) (newJob : T) :
    BoundedJobStore T :=
  let newJobId := Job.getJobId newJob
  pruneFutureJobs
    { store with
      futureJobs := store.futureJobs.insert newJobId newJob
      futureTemplateToJobId := store.futureTemplateToJobId.insert templateId newJobId
      futureOrder := store.futureOrder.filter (fun entry =>
        decide (entry.1 ≠ templateId) && decide (entry.2 ≠ newJobId)) ++ [(templateId, newJobId)] }

/-- The active job, if there is one, becomes a past job. -/
def displaceActiveJob (store : BoundedJobStore T) : BoundedJobStore T :=
  match store.activeJob with
  | some activeJob => insertPastJob { store with activeJob := none } activeJob
  | none => store

/-- `add_active_job`. -/
def addActiveJob (store : BoundedJobStore T) (job : T) : BoundedJobStore T :=
  { store.displaceActiveJob with activeJob := some job }

/-- One turn of the loop of `mark_past_jobs_as_stale`. -/
def markAsStale (store : BoundedJobStore T) (jobId : UInt32) : BoundedJobStore T :=
  match store.pastJobs.lookup jobId with
  | some job =>
    { store with
      pastJobs := store.pastJobs.erase jobId
      staleJobs := store.staleJobs.insert jobId job
      staleOrder := store.staleOrder.filter (· ≠ jobId) ++ [jobId] }
  | none => store

/-- `mark_past_jobs_as_stale`. -/
def markPastJobsAsStale (store : BoundedJobStore T) : BoundedJobStore T :=
  let marked := store.pastOrder.foldl markAsStale { store with pastOrder := [] }
  pruneStaleJobs { marked with pastJobs := ∅ }

/-- `activate_future_job`.  Where the template has no job, the template's entry is
gone all the same. -/
def activateFutureJob (store : BoundedJobStore T) (templateId : UInt64)
    (prevHashHeaderTimestamp : UInt32) : Bool × BoundedJobStore T :=
  match store.futureTemplateToJobId.lookup templateId with
  | none => (false, store)
  | some jobId =>
    let futureTemplateToJobId := store.futureTemplateToJobId.erase templateId
    match store.futureJobs.lookup jobId with
    | none => (false, { store with futureTemplateToJobId := futureTemplateToJobId })
    | some futureJob =>
      let displaced := store.displaceActiveJob
      (true, markPastJobsAsStale
        { displaced with
          activeJob := some (Job.activate futureJob prevHashHeaderTimestamp)
          futureJobs := ∅
          futureTemplateToJobId := ∅
          futureOrder := [] })

/-- `get_future_job_id_from_template_id`. -/
def getFutureJobIdFromTemplateId (store : BoundedJobStore T) (templateId : UInt64) :
    Option UInt32 := store.futureTemplateToJobId.lookup templateId

/-- `get_active_job`. -/
def getActiveJob (store : BoundedJobStore T) : Option T := store.activeJob

/-- `has_future_jobs`. -/
def hasFutureJobs (store : BoundedJobStore T) : Bool := !store.futureJobs.entries.isEmpty

/-- `get_future_job`. -/
def getFutureJob (store : BoundedJobStore T) (jobId : UInt32) : Option T :=
  store.futureJobs.lookup jobId

/-- `get_past_job`. -/
def getPastJob (store : BoundedJobStore T) (jobId : UInt32) : Option T :=
  store.pastJobs.lookup jobId

/-- `get_stale_job`. -/
def getStaleJob (store : BoundedJobStore T) (jobId : UInt32) : Option T :=
  store.staleJobs.lookup jobId

end BoundedJobStore

/-! ## Dropping the oldest entries -/

section DropOldest

variable {A M : Type} {cap : ℕ} {remove : A → M → M}

/-- What removing one entry preserves, dropping the oldest ones preserves. -/
theorem dropOldest_preserves {I : M → Prop} (hremove : ∀ a maps, I maps → I (remove a maps))
    (order : List A) {maps : M} (h : I maps) : I (dropOldest cap remove order maps).2 := by
  induction order generalizing maps with
  | nil => exact h
  | cons oldest order ih =>
    simp only [dropOldest]
    split
    · exact ih (hremove _ _ h)
    · exact h

/-- The newest entry stays, so what the removal of every other one preserves is
preserved. -/
theorem dropOldest_append_preserves {I : M → Prop} (hcap : 0 < cap) (order : List A) (newest : A)
    (hremove : ∀ a ∈ order, ∀ maps, I maps → I (remove a maps)) {maps : M} (h : I maps) :
    I (dropOldest cap remove (order ++ [newest]) maps).2 := by
  induction order generalizing maps with
  | nil =>
    have hlen : ¬ cap < 1 := by omega
    simpa [dropOldest, hlen] using h
  | cons oldest order ih =>
    simp only [List.cons_append, dropOldest]
    split
    · refine ih (fun a ha => hremove a (List.mem_cons_of_mem _ ha)) ?_
      exact hremove oldest List.mem_cons_self _ h
    · exact h

/-- The order that is left is made of the newest entries. -/
theorem dropOldest_fst (order : List A) (maps : M) :
    (dropOldest cap remove order maps).1 = order.drop (order.length - cap) := by
  induction order generalizing maps with
  | nil => simp [dropOldest]
  | cons oldest order ih =>
    simp only [dropOldest, List.length_cons]
    split
    · rename_i hlt
      have hsub : order.length + 1 - cap = (order.length - cap) + 1 := by omega
      rw [ih, hsub, List.drop_succ_cons]
    · rename_i hle
      have hzero : order.length + 1 - cap = 0 := by omega
      rw [hzero, List.drop_zero]

/-- The entries that are removed are the oldest ones. -/
theorem dropOldest_snd (order : List A) (maps : M) :
    (dropOldest cap remove order maps).2 =
      (order.take (order.length - cap)).foldl (fun maps a => remove a maps) maps := by
  induction order generalizing maps with
  | nil => simp [dropOldest]
  | cons oldest order ih =>
    simp only [dropOldest, List.length_cons]
    split
    · rename_i hlt
      have hsub : order.length + 1 - cap = (order.length - cap) + 1 := by omega
      rw [ih, hsub, List.take_succ_cons, List.foldl_cons]
    · rename_i hle
      have hzero : order.length + 1 - cap = 0 := by omega
      rw [hzero, List.take_zero, List.foldl_nil]

/-- Two maps that are pruned together are pruned each by its own part of the entries. -/
theorem dropOldest_prod {K K' N : Type} {removeFst : K → M → M} {removeSnd : K' → N → N}
    (order : List (K × K')) (maps : M × N) :
    (dropOldest cap (fun entry maps => (removeFst entry.1 maps.1, removeSnd entry.2 maps.2))
        order maps).2 =
      ((dropOldest cap removeFst (order.map Prod.fst) maps.1).2,
        (dropOldest cap removeSnd (order.map Prod.snd) maps.2).2) := by
  induction order generalizing maps with
  | nil => rfl
  | cons oldest order ih =>
    simp only [dropOldest, List.map_cons, List.length_cons, List.length_map]
    split
    · exact ih _
    · rfl

end DropOldest

namespace BoundedJobStore

variable {T : Type} {store : BoundedJobStore T} {job : T}

/-! ## The jobs of a store -/

/-- A job is in one of the four categories. -/
inductive Holds (store : BoundedJobStore T) (job : T) : Prop
  | future (id : UInt32) : store.futureJobs.lookup id = some job → Holds store job
  | active : store.activeJob = some job → Holds store job
  | past (id : UInt32) : store.pastJobs.lookup id = some job → Holds store job
  | stale (id : UInt32) : store.staleJobs.lookup id = some job → Holds store job

theorem not_holds_new (job : T) : ¬ (new : BoundedJobStore T).Holds job := by
  rintro (⟨_, h⟩ | h | ⟨_, h⟩ | ⟨_, h⟩) <;> cases h

/-- Removing entries of a map adds none. -/
theorem lookup_dropOldest {cap : ℕ} {jobs : AssocMap UInt32 T} {order : List UInt32} {id : UInt32}
    (h : (dropOldest cap AList.erase order jobs).2.lookup id = some job) :
    jobs.lookup id = some job := by
  refine dropOldest_preserves (I := fun m : AssocMap UInt32 T =>
    ∀ id, m.lookup id = some job → jobs.lookup id = some job) ?_ order (fun _ h => h) id h
  intro a m hm id hid
  rw [AssocMap.lookup_erase_if] at hid
  split at hid
  · cases hid
  · exact hm id hid

/-- A job marked as stale was held as a past one. -/
theorem Holds.of_markAsStale {id : UInt32} (h : (store.markAsStale id).Holds job) :
    store.Holds job := by
  unfold markAsStale at h
  cases hl : store.pastJobs.lookup id with
  | none => simpa only [hl] using h
  | some past =>
    simp only [hl] at h
    rcases h with ⟨id', h⟩ | h | ⟨id', h⟩ | ⟨id', h⟩
    · exact .future id' h
    · exact .active h
    · simp only [AssocMap.lookup_erase_if] at h
      split at h
      · cases h
      · exact .past id' h
    · simp only [AssocMap.lookup_insert_if] at h
      split at h
      · exact .past id (hl.trans h)
      · exact .stale id' h

/-- Marking jobs as stale holds no new job. -/
theorem Holds.of_markPastJobsAsStale (h : store.markPastJobsAsStale.Holds job) :
    store.Holds job := by
  have hfold : ∀ (order : List UInt32) (s : BoundedJobStore T),
      (order.foldl markAsStale s).Holds job → s.Holds job := by
    intro order
    induction order with
    | nil => exact fun s h => h
    | cons id order ih => exact fun s h => (ih _ h).of_markAsStale
  have hmarked : (store.pastOrder.foldl markAsStale { store with pastOrder := [] }).Holds job := by
    rcases h with ⟨id, h⟩ | h | ⟨id, h⟩ | ⟨id, h⟩
    · exact .future id h
    · exact .active h
    · cases h
    · exact .stale id (lookup_dropOldest h)
  have hstore := hfold _ _ hmarked
  rcases hstore with ⟨id, h⟩ | h | ⟨id, h⟩ | ⟨id, h⟩
  · exact .future id h
  · exact .active h
  · exact .past id h
  · exact .stale id h

variable [Job T]

/-- A past job after an insertion is the inserted one or one with another id. -/
theorem lookup_insertPastJob {new : T} {id : UInt32}
    (h : (store.insertPastJob new).pastJobs.lookup id = some job) :
    id = Job.getJobId new ∧ job = new ∨
      id ≠ Job.getJobId new ∧ store.pastJobs.lookup id = some job := by
  have h' := lookup_dropOldest (T := T) h
  rw [AssocMap.lookup_insert_if] at h'
  by_cases hid : id = Job.getJobId new
  · rw [if_pos hid] at h'
    exact .inl ⟨hid, (Option.some.inj h').symm⟩
  · rw [if_neg hid] at h'
    exact .inr ⟨hid, h'⟩

/-- A displaced active job is held as a past one, and no other job is new. -/
theorem Holds.of_displaceActiveJob (h : store.displaceActiveJob.Holds job) : store.Holds job := by
  unfold displaceActiveJob at h
  cases hact : store.activeJob with
  | none => simpa only [hact] using h
  | some old =>
    simp only [hact] at h
    rcases h with ⟨id, h⟩ | h | ⟨id, h⟩ | ⟨id, h⟩
    · exact .future id h
    · cases h
    · rcases lookup_insertPastJob h with ⟨-, rfl⟩ | ⟨-, h⟩
      · exact .active hact
      · exact .past id h
    · exact .stale id h

/-- An added future job is the only new one. -/
theorem Holds.of_addFutureJob {templateId : UInt64} {new : T}
    (h : (store.addFutureJob templateId new).Holds job) : job = new ∨ store.Holds job := by
  rcases h with ⟨id, h⟩ | h | ⟨id, h⟩ | ⟨id, h⟩
  · have key : ∀ id', (store.addFutureJob templateId new).futureJobs.lookup id' = some job →
        (store.futureJobs.insert (Job.getJobId new) new).lookup id' = some job := by
      refine dropOldest_preserves (I := fun maps : AssocMap UInt64 UInt32 × AssocMap UInt32 T =>
        ∀ id', maps.2.lookup id' = some job →
          (store.futureJobs.insert (Job.getJobId new) new).lookup id' = some job) ?_ _
        (fun _ h => h)
      intro a maps hm id' hid
      rw [AssocMap.lookup_erase_if] at hid
      split at hid
      · cases hid
      · exact hm id' hid
    have h' := key id h
    rw [AssocMap.lookup_insert_if] at h'
    split at h'
    · exact .inl (Option.some.inj h').symm
    · exact .inr (.future id h')
  · exact .inr (.active h)
  · exact .inr (.past id h)
  · exact .inr (.stale id h)

/-- An added active job is the only new one. -/
theorem Holds.of_addActiveJob {new : T} (h : (store.addActiveJob new).Holds job) :
    job = new ∨ store.Holds job := by
  rcases h with ⟨id, h⟩ | h | ⟨id, h⟩ | ⟨id, h⟩
  · exact .inr (Holds.of_displaceActiveJob (.future id h))
  · exact .inl (Option.some.inj h).symm
  · exact .inr (Holds.of_displaceActiveJob (.past id h))
  · exact .inr (Holds.of_displaceActiveJob (.stale id h))

/-- After an activation a job is the activated future job or was held before. -/
theorem Holds.of_activateFutureJob {templateId : UInt64} {timestamp : UInt32}
    (h : (store.activateFutureJob templateId timestamp).2.Holds job) :
    store.Holds job ∨ ∃ future, store.Holds future ∧ job = Job.activate future timestamp := by
  unfold activateFutureJob at h
  cases hid : store.futureTemplateToJobId.lookup templateId with
  | none =>
    simp only [hid] at h
    exact .inl h
  | some id =>
    simp only [hid] at h
    cases hjob : store.futureJobs.lookup id with
    | none =>
      simp only [hjob] at h
      rcases h with ⟨id, h⟩ | h | ⟨id, h⟩ | ⟨id, h⟩
      · exact .inl (.future id h)
      · exact .inl (.active h)
      · exact .inl (.past id h)
      · exact .inl (.stale id h)
    | some future =>
      simp only [hjob] at h
      rcases h.of_markPastJobsAsStale with ⟨id', h⟩ | h | ⟨id', h⟩ | ⟨id', h⟩
      · cases h
      · exact .inr ⟨future, .future id hjob, (Option.some.inj h).symm⟩
      · exact .inl (Holds.of_displaceActiveJob (.past id' h))
      · exact .inl (Holds.of_displaceActiveJob (.stale id' h))

/-! ## Finding a job again -/

/-- The template of an added future job leads to it. -/
theorem addFutureJob_lookup (store : BoundedJobStore T) (templateId : UInt64) (new : T) :
    (store.addFutureJob templateId new).futureTemplateToJobId.lookup templateId =
        some (Job.getJobId new) ∧
      (store.addFutureJob templateId new).futureJobs.lookup (Job.getJobId new) = some new := by
  refine dropOldest_append_preserves (I := fun maps : AssocMap UInt64 UInt32 × AssocMap UInt32 T =>
    maps.1.lookup templateId = some (Job.getJobId new) ∧
      maps.2.lookup (Job.getJobId new) = some new) (by decide) _ _ ?_ ?_
  · intro entry hentry maps hmaps
    simp only [List.mem_filter, Bool.and_eq_true, decide_eq_true_eq] at hentry
    obtain ⟨-, htemplate, hid⟩ := hentry
    rw [AssocMap.lookup_erase_if, AssocMap.lookup_erase_if, if_neg (Ne.symm htemplate),
      if_neg (Ne.symm hid)]
    exact hmaps
  · simp

theorem holds_addFutureJob (store : BoundedJobStore T) (templateId : UInt64) (new : T) :
    (store.addFutureJob templateId new).Holds new :=
  .future _ (addFutureJob_lookup store templateId new).2

theorem holds_addActiveJob (store : BoundedJobStore T) (new : T) :
    (store.addActiveJob new).Holds new := .active rfl

end BoundedJobStore

end CanaryMining
