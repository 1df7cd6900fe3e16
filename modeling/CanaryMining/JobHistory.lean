import CanaryMining.ChannelsSv2

/-!
# Which templates a channel still works on

A pool accepts shares on a channel's active job and its past jobs.  As templates
come in one after the other, these are jobs of the template of the tip, which
the channel started with, and of the last three templates.

## Main definitions

* `BoundedJobStore.Accepts` — the active job and the past ones.
* `templateId?` — the template a job was made from.
* `BoundedJobStore.Follows` — the invariant of a store.

**Main results:** `Follows.addActiveJob`, `Awaits.setsNewPrevHash`.
-/

namespace CanaryMining

/-- The id of the template a job was made from. -/
def templateId? {J : Type} [ServerJob J] (job : J) : Option ℕ :=
  match ServerJob.origin job with
  | .newTemplate template => some template.templateId.toNat
  | .setCustomMiningJob => none

theorem IsJobOf.templateId? {J : Type} [ServerJob J] {template : NewTemplate}
    {outputs : List TxOut} {job : J} (h : IsJobOf template outputs job) :
    templateId? job = some template.templateId.toNat := by
  simp only [CanaryMining.templateId?, h.origin]

/-! ## Dropping keys together with their entries -/

section DropOldest

variable {V : Type} {cap : ℕ}

/-- Keys that all stand in the order still do when the oldest are dropped. -/
theorem mem_dropOldest {jobs : AssocMap UInt32 V} {order : List UInt32}
    (h : ∀ id, (jobs.lookup id).isSome → id ∈ order) {id : UInt32}
    (hid : ((dropOldest cap AList.erase order jobs).2.lookup id).isSome) :
    id ∈ (dropOldest cap AList.erase order jobs).1 := by
  induction order generalizing jobs with
  | nil => exact h id hid
  | cons oldest order ih =>
    simp only [dropOldest] at hid ⊢
    split at hid
    · rename_i hlt
      rw [if_pos hlt]
      refine ih (fun id' hid' => ?_) hid
      rw [AssocMap.lookup_erase_if] at hid'
      split at hid'
      · cases hid'
      · rename_i hne
        exact (List.mem_cons.1 (h id' hid')).resolve_left hne
    · rename_i hle
      rw [if_neg hle]
      exact h id hid

end DropOldest

namespace BoundedJobStore

section Past

variable {T : Type} [Job T] {store : BoundedJobStore T} {job new : T} {id : UInt32}

/-- Ids in order, the past jobs of a store are those in its order after an insertion. -/
theorem mem_pastOrder_insertPastJob (store : BoundedJobStore T)
    (hordered : ∀ id, (store.pastJobs.lookup id).isSome → id ∈ store.pastOrder)
    (h : ((store.insertPastJob new).pastJobs.lookup id).isSome) :
    id ∈ (store.insertPastJob new).pastOrder := by
  refine mem_dropOldest (fun id' hid' => ?_) h
  rw [AssocMap.lookup_insert_if] at hid'
  simp only [List.mem_append, List.mem_filter, List.mem_singleton, decide_eq_true_eq]
  by_cases heq : id' = Job.getJobId new
  · exact .inr heq
  · rw [if_neg heq] at hid'
    exact .inl ⟨hordered id' hid', by simpa using heq⟩

/-- **What is left of two past jobs.**  After the insertion of a job whose id is not the
newest one's, only the newest one is left beside it. -/
theorem pastOrder_insertPastJob (store : BoundedJobStore T) (new : T)
    (hlen : store.pastOrder.length ≤ maxPastJobs)
    (hnew : ∀ newest, store.pastOrder.getLast? = some newest →
      Job.getJobId new ≠ newest ∨ store.pastOrder.length ≤ 1) :
    (store.insertPastJob new).pastOrder = [Job.getJobId new] ∨
      ∃ newest, store.pastOrder.getLast? = some newest ∧ Job.getJobId new ≠ newest ∧
        (store.insertPastJob new).pastOrder = [newest, Job.getJobId new] := by
  have horder : (store.insertPastJob new).pastOrder =
      (store.pastOrder.filter (· ≠ Job.getJobId new) ++ [Job.getJobId new]).drop
        ((store.pastOrder.filter (· ≠ Job.getJobId new) ++ [Job.getJobId new]).length -
          maxPastJobs) := dropOldest_fst _ _
  rw [horder]
  unfold maxPastJobs at *
  match hs : store.pastOrder, hlen with
  | [], _ => exact .inl (by simp)
  | [newest], _ =>
    by_cases heq : newest = Job.getJobId new
    · exact .inl (by simp [heq])
    · exact .inr ⟨newest, rfl, Ne.symm heq, by simp [heq]⟩
  | [older, newest], _ =>
    have hne : Job.getJobId new ≠ newest := by
      have hcase := hnew newest (by rw [hs]; rfl)
      rw [hs] at hcase
      exact hcase.resolve_right (by simp)
    refine .inr ⟨newest, rfl, hne, ?_⟩
    by_cases heq : older = Job.getJobId new
    · simp [heq, Ne.symm hne]
    · simp [heq, Ne.symm hne]

end Past

/-! ## The invariant -/

section Follows

variable {J : Type} [ServerJob J]

/-- The jobs a channel accepts shares on. -/
inductive Accepts (store : BoundedJobStore J) (job : J) : Prop
  | active : store.activeJob = some job → Accepts store job
  | past (id : UInt32) : store.pastJobs.lookup id = some job → Accepts store job

/-- **The invariant of a store** that was given the template `tip` of the tip and, since it
got its first job, every template up to `latest`. -/
structure Follows (tip latest : ℕ) (store : BoundedJobStore J) : Prop where
  active : ∃ job, store.activeJob = some job ∧
    (templateId? job = some tip ∨ templateId? job = some latest)
  short : store.pastOrder.length ≤ maxPastJobs
  ordered : ∀ id, (store.pastJobs.lookup id).isSome → id ∈ store.pastOrder
  newest : ∀ id job, store.pastOrder.getLast? = some id → store.pastJobs.lookup id = some job →
    templateId? job = some tip ∨ ∃ i, templateId? job = some i ∧ tip ≤ i ∧ latest = i + 1
  past : ∀ id job, store.pastJobs.lookup id = some job →
    templateId? job = some tip ∨
      ∃ i, templateId? job = some i ∧ tip ≤ i ∧ i ≤ latest ∧ latest ≤ i + 2
  fresh : ∀ job id, store.activeJob = some job → store.pastOrder.getLast? = some id →
    Job.getJobId job ≠ id ∨ store.pastOrder.length ≤ 1

variable {store store' : BoundedJobStore J} {tip latest : ℕ} {job new : J}

/-- The jobs of a store are of the template of the tip or of one of the last three. -/
theorem Follows.accepts (h : Follows tip latest store) (htip : tip ≤ latest)
    (hjob : store.Accepts job) : ∃ i, templateId? job = some i ∧ tip ≤ i ∧ i ≤ latest ∧
      (i = tip ∨ latest ≤ i + 2) := by
  rcases hjob with hactive | ⟨id, hpast⟩
  · obtain ⟨active, hsome, hid⟩ := h.active
    have heq : active = job := Option.some.inj (hsome.symm.trans hactive)
    subst heq
    rcases hid with hid | hid
    · exact ⟨tip, hid, le_refl tip, htip, .inl rfl⟩
    · exact ⟨latest, hid, htip, le_refl latest, .inr (by omega)⟩
  · rcases h.past id job hpast with hid | ⟨i, hid, hle, hle', hlatest⟩
    · exact ⟨tip, hid, le_refl tip, htip, .inl rfl⟩
    · exact ⟨i, hid, hle, hle', .inr hlatest⟩

/-- The jobs of a store after a job was made active. -/
theorem Accepts.of_addActiveJob (h : (store.addActiveJob new).Accepts job) :
    job = new ∨ store.Accepts job := by
  rcases h with hactive | ⟨id, hpast⟩
  · exact .inl (Option.some.inj hactive).symm
  · right
    simp only [addActiveJob, displaceActiveJob] at hpast
    cases hact : store.activeJob with
    | none =>
      simp only [hact] at hpast
      exact .past id hpast
    | some active =>
      simp only [hact] at hpast
      rcases lookup_insertPastJob hpast with ⟨-, rfl⟩ | ⟨-, hold⟩
      · exact .active hact
      · exact .past id hold

/-- **The next template.**  A store that gets a job of the next template, whose id is not
the active job's, follows on. -/
theorem Follows.addActiveJob (h : Follows tip latest store) (htip : tip ≤ latest)
    (hnew : templateId? new = some (latest + 1))
    (hfresh : ∀ active, store.activeJob = some active →
      Job.getJobId new ≠ Job.getJobId active ∨ store.pastOrder = []) :
    Follows tip (latest + 1) (store.addActiveJob new) := by
  obtain ⟨active, hactive, hid⟩ := h.active
  have hdisplaced : (store.addActiveJob new).pastOrder =
        (insertPastJob { store with activeJob := none } active).pastOrder ∧
      (store.addActiveJob new).pastJobs =
        (insertPastJob { store with activeJob := none } active).pastJobs := by
    simp [BoundedJobStore.addActiveJob, displaceActiveJob, hactive]
  -- The displaced job is a past one of the template before, or of the tip.
  have hlast : templateId? active = some tip ∨
      ∃ i, templateId? active = some i ∧ tip ≤ i ∧ latest + 1 = i + 1 := by
    rcases hid with hid | hid
    · exact .inl hid
    · exact .inr ⟨latest, hid, htip, rfl⟩
  have horder := pastOrder_insertPastJob { store with activeJob := none } active
    h.short fun newest hnewest => h.fresh active newest hactive hnewest
  rw [← hdisplaced.1] at horder
  have hlookup : ∀ id job, (store.addActiveJob new).pastJobs.lookup id = some job →
      id = Job.getJobId active ∧ job = active ∨
        id ≠ Job.getJobId active ∧ store.pastJobs.lookup id = some job := by
    intro id job hjob
    rw [hdisplaced.2] at hjob
    exact lookup_insertPastJob hjob
  have hordered : ∀ id, ((store.addActiveJob new).pastJobs.lookup id).isSome →
      id ∈ (store.addActiveJob new).pastOrder := by
    intro id hsome
    rw [hdisplaced.2] at hsome
    rw [hdisplaced.1]
    exact mem_pastOrder_insertPastJob { store with activeJob := none } h.ordered hsome
  have hgetLast : (store.addActiveJob new).pastOrder.getLast? = some (Job.getJobId active) := by
    rcases horder with horder | ⟨newest, -, -, horder⟩ <;> rw [horder] <;> rfl
  refine ⟨⟨new, rfl, .inr hnew⟩, ?_, hordered, fun id job hl hjob => ?_, fun id job hjob => ?_,
    fun job id hjob hl => ?_⟩
  · rcases horder with horder | ⟨newest, -, -, horder⟩ <;> rw [horder] <;> simp [maxPastJobs]
  · rw [hgetLast, Option.some.injEq] at hl
    rcases hlookup id job hjob with ⟨-, rfl⟩ | ⟨hne, -⟩
    · exact hlast
    · exact absurd hl.symm hne
  · rcases hlookup id job hjob with ⟨-, rfl⟩ | ⟨hne, hold⟩
    · rcases hlast with hlast | ⟨i, hi, hle, heq⟩
      · exact .inl hlast
      · exact .inr ⟨i, hi, hle, by omega, by omega⟩
    · -- The only other past job is the newest one of before.
      have hmem := hordered id (by rw [hjob]; rfl)
      rcases horder with horder | ⟨newest, hnewest, -, horder⟩
      · rw [horder] at hmem
        exact absurd (List.mem_singleton.1 hmem) hne
      · rw [horder] at hmem
        have hidnewest : id = newest := by
          simpa [hne] using hmem
        subst hidnewest
        rcases h.newest id job hnewest hold with htip' | ⟨i, hi, hle, heq⟩
        · exact .inl htip'
        · exact .inr ⟨i, hi, hle, by omega, by omega⟩
  · have hjobnew : new = job := Option.some.inj hjob
    subst hjobnew
    rw [hgetLast, Option.some.injEq] at hl
    subst hl
    rcases hfresh active hactive with hne | hnil
    · exact .inl hne
    · right
      rcases horder with horder | ⟨newest, hnewest, -, -⟩
      · rw [horder]
        exact le_refl 1
      · rw [hnil] at hnewest
        cases hnewest

/-! ## A new tip -/

/-- The store has a future job of a template. -/
def Awaits (templateId : UInt64) (store : BoundedJobStore J) : Prop :=
  ∃ jobId job, store.futureTemplateToJobId.lookup templateId = some jobId ∧
    store.futureJobs.lookup jobId = some job ∧ templateId? job = some templateId.toNat

theorem awaits_addFutureJob (store : BoundedJobStore J) {templateId : UInt64}
    (hnew : templateId? new = some templateId.toNat) :
    (store.addFutureJob templateId new).Awaits templateId := by
  obtain ⟨hid, hjob⟩ := addFutureJob_lookup store templateId new
  exact ⟨_, new, hid, hjob, hnew⟩

/-- A future job changes neither the active job nor the past ones. -/
theorem Follows.addFutureJob {templateId : UInt64} (h : Follows tip latest store) :
    Follows tip latest (store.addFutureJob templateId new) :=
  ⟨h.active, h.short, h.ordered, h.newest, h.past, h.fresh⟩

theorem Accepts.of_addFutureJob {templateId : UInt64}
    (h : (store.addFutureJob templateId new).Accepts job) : store.Accepts job := by
  rcases h with hactive | ⟨id, hpast⟩
  · exact .active hactive
  · exact .past id hpast

omit [ServerJob J] in
/-- Marking the past jobs as stale leaves the active job alone. -/
theorem markPastJobsAsStale_eq (store : BoundedJobStore J) :
    store.markPastJobsAsStale.activeJob = store.activeJob ∧
      store.markPastJobsAsStale.pastJobs = ∅ ∧ store.markPastJobsAsStale.pastOrder = [] := by
  have hfold : ∀ (order : List UInt32) (s : BoundedJobStore J),
      (order.foldl markAsStale s).activeJob = s.activeJob ∧
        (order.foldl markAsStale s).pastOrder = s.pastOrder := by
    intro order
    induction order with
    | nil => exact fun s => ⟨rfl, rfl⟩
    | cons id order ih =>
      intro s
      have hmark : (s.markAsStale id).activeJob = s.activeJob ∧
          (s.markAsStale id).pastOrder = s.pastOrder := by
        unfold markAsStale
        split
        · exact ⟨rfl, rfl⟩
        · exact ⟨rfl, rfl⟩
      obtain ⟨hactive, hpast⟩ := ih (s.markAsStale id)
      exact ⟨hactive.trans hmark.1, hpast.trans hmark.2⟩
  obtain ⟨hactive, hpast⟩ := hfold store.pastOrder { store with pastOrder := [] }
  exact ⟨hactive, rfl, hpast⟩

theorem Awaits.hasFutureJobs {templateId : UInt64} (h : store.Awaits templateId) :
    store.hasFutureJobs = true := by
  obtain ⟨jobId, future, -, hjob, -⟩ := h
  rw [AssocMap.lookup_eq_some] at hjob
  cases hentries : store.futureJobs.entries with
  | nil =>
    rw [hentries] at hjob
    cases hjob
  | cons _ _ => simp [BoundedJobStore.hasFutureJobs, hentries]

/-- The new previous hash leaves a store with the job of its template alone. -/
theorem Awaits.setsNewPrevHash {message : SetNewPrevHash} (h : store.Awaits message.templateId)
    (hactivate : ∀ (job : J) timestamp,
      ServerJob.origin (Job.activate job timestamp) = ServerJob.origin job)
    (hsets : store.SetsNewPrevHash message store') (latest : ℕ) :
    Follows message.templateId.toNat latest store' ∧ store'.pastOrder = [] := by
  have hfuture := h.hasFutureJobs
  obtain ⟨jobId, future, hid, hjob, htemplate⟩ := h
  rcases hsets with hact | ⟨hnone, -⟩
  · have hstore : store' = markPastJobsAsStale
        { store.displaceActiveJob with
          activeJob := some (Job.activate future message.headerTimestamp)
          futureJobs := ∅
          futureTemplateToJobId := ∅
          futureOrder := [] } := by
      simp only [activateFutureJob, hid, hjob, Prod.mk.injEq] at hact
      exact hact.2.symm
    obtain ⟨hactive, hjobs, horder⟩ := markPastJobsAsStale_eq
      { store.displaceActiveJob with
        activeJob := some (Job.activate future message.headerTimestamp)
        futureJobs := ∅
        futureTemplateToJobId := ∅
        futureOrder := [] }
    rw [← hstore] at hactive hjobs horder
    have hactivated : templateId? (Job.activate future message.headerTimestamp) =
        some message.templateId.toNat := by
      simp only [templateId?, hactivate]
      exact htemplate
    refine ⟨⟨⟨_, hactive, .inl hactivated⟩, ?_, fun id hs => ?_, fun id job hl _ => ?_,
      fun id job hl => ?_, fun job id _ hl => ?_⟩, horder⟩
    · rw [horder]
      exact Nat.zero_le _
    · rw [hjobs] at hs
      cases hs
    · rw [horder] at hl
      cases hl
    · rw [hjobs] at hl
      cases hl
    · rw [horder] at hl
      cases hl
  · rw [hfuture] at hnone
    cases hnone

/-- A new store that is only told of the previous hash accepts shares on no job. -/
theorem not_accepts_of_new {message : SetNewPrevHash}
    (hsets : BoundedJobStore.new.SetsNewPrevHash message store') : ¬ store'.Accepts job := by
  rcases hsets with hact | ⟨-, rfl⟩
  · cases hact
  · rintro (hactive | ⟨id, hpast⟩)
    · cases hactive
    · cases hpast

/-- A store that awaits one template stops at the previous hash of another. -/
theorem Awaits.not_setsNewPrevHash {templateId : UInt64} {message : SetNewPrevHash}
    (h : store.Awaits templateId)
    (hother : store.futureTemplateToJobId.lookup message.templateId = none) :
    ¬ store.SetsNewPrevHash message store' := by
  rintro (hact | ⟨hnone, -⟩)
  · simp only [activateFutureJob, hother, Prod.mk.injEq] at hact
    cases hact.1
  · rw [h.hasFutureJobs] at hnone
    cases hnone

/-- A new store with one future job knows one template. -/
theorem lookup_new_addFutureJob {templateId other : UInt64} (hne : other ≠ templateId) (job : J) :
    ((BoundedJobStore.new : BoundedJobStore J).addFutureJob
      templateId job).futureTemplateToJobId.lookup other = none := by
  have hmap : ((BoundedJobStore.new : BoundedJobStore J).addFutureJob
      templateId job).futureTemplateToJobId =
      AList.insert templateId (Job.getJobId job) ∅ := rfl
  rw [hmap, AssocMap.lookup_insert_if, if_neg hne]
  rfl

end Follows

end BoundedJobStore

end CanaryMining
