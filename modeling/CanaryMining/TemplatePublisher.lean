import CanaryMining.Manager.State
import Mathlib.Data.List.Sort
import Mathlib.Order.Interval.Finset.Nat

/-!
# The publisher of Bitcoin Core's templates

`BitcoinCoreSv2TDP` keeps the data of the templates it has published, so that a
solution can be submitted to the node.  It forgets templates in two ways: after
each publish all but the newest 256 of the same previous hash, and ten seconds
after a tip change all that were known before it.

Here a template is fetched, announced and stored in one step; that the provider's tasks,
which take several, do no more than this is shown in `TemplateDistribution.Publisher`.

## Main definitions

* `TemplateData`, `TemplateMessage`, `TemplatePublisher`.
* `oldestTemplateIdsToEvict`, `TemplatePublisher.publishTemplate`.
* `TemplatePublisher.waitNextAnswered` — a tip change, or more fees on the same tip.
* `TemplatePublisher.removeStale` — the end of the ten seconds.

**Main result:** `lookup_pruneTemplateDataForPrevHash`, what a publish keeps.
-/

namespace CanaryMining

/-- `TemplateData`, what is read of it here. -/
structure TemplateData where
  templateId : UInt64
  prevHash : BitVec 256
  blockRewardRemaining : UInt64
  ntime : UInt32
  nbits : UInt32
  deriving DecidableEq, Repr

namespace TemplateData

/-- `get_new_template_message`. -/
def getNewTemplateMessage (data : TemplateData) (futureTemplate : Bool) : NewTemplate :=
  ⟨data.templateId, futureTemplate, data.blockRewardRemaining⟩

/-- `get_set_new_prev_hash_message`. -/
def getSetNewPrevHashMessage (data : TemplateData) : SetNewPrevHash :=
  ⟨data.templateId, data.prevHash, data.ntime, data.nbits⟩

end TemplateData

/-- The messages to the channel manager. -/
inductive TemplateMessage
  | newTemplate (template : NewTemplate)
  | setNewPrevHash (message : SetNewPrevHash)
  deriving DecidableEq, Repr

/-- The messages of a published template. -/
def TemplateData.messages (data : TemplateData) (futureTemplate sendSetNewPrevHash : Bool) :
    List TemplateMessage :=
  let newTemplate := TemplateMessage.newTemplate (data.getNewTemplateMessage futureTemplate)
  if sendSetNewPrevHash then [newTemplate, .setNewPrevHash data.getSetNewPrevHashMessage]
  else [newTemplate]

/-- A task of `process_stale_template_data` that sleeps.  `tip` is the template of the tip
change that started it. -/
structure StaleTask where
  tip : UInt64
  staleTemplateIds : List UInt64
  deriving DecidableEq, Repr

/-- `BitcoinCoreSv2TDP`. -/
structure TemplatePublisher where
  currentPrevHash : Option (BitVec 256)
  templateData : AssocMap UInt64 TemplateData
  staleTemplateIds : List UInt64
  templateIdFactory : UInt64
  outgoingMessages : List TemplateMessage
  staleTasks : List StaleTask

/-- What the node tells of a block template. -/
structure BlockTemplate where
  prevHash : BitVec 256
  blockRewardRemaining : UInt64
  ntime : UInt32
  nbits : UInt32
  deriving DecidableEq, Repr

/-- `MAX_RETAINED_TEMPLATES_PER_PREV_HASH`. -/
def maxRetainedTemplatesPerPrevHash : ℕ := 256

/-- `oldest_template_ids_to_evict`. -/
def oldestTemplateIdsToEvict (templateIds : List UInt64) (maxRetainedTemplates : ℕ) :
    List UInt64 :=
  if templateIds.length ≤ maxRetainedTemplates then []
  else (templateIds.insertionSort (· ≤ ·)).take (templateIds.length - maxRetainedTemplates)

namespace TemplatePublisher

variable (p : TemplatePublisher)

/-- `fetch_template_data`: the data gets the next id. -/
def fetchTemplateData (block : BlockTemplate) : TemplateData × TemplatePublisher :=
  (⟨p.templateIdFactory, block.prevHash, block.blockRewardRemaining, block.ntime, block.nbits⟩,
    { p with templateIdFactory := p.templateIdFactory + 1 })

/-- `store_template_data`. -/
def storeTemplateData (data : TemplateData) : TemplatePublisher :=
  { p with templateData := p.templateData.insert data.templateId data }

/-- `current_template_ids`. -/
def currentTemplateIds : List UInt64 := p.templateData.keys

/-- The ids of the templates of a previous hash. -/
def templateIdsOfPrevHash (prevHash : BitVec 256) : List UInt64 :=
  (p.templateData.values.filter fun data => data.prevHash = prevHash).map (·.templateId)

/-- `prune_template_data_for_prev_hash`. -/
def pruneTemplateDataForPrevHash (prevHash : BitVec 256) : TemplatePublisher :=
  let evicted := oldestTemplateIdsToEvict (p.templateIdsOfPrevHash prevHash)
    maxRetainedTemplatesPerPrevHash
  { p with templateData := evicted.foldl (fun m id => m.erase id) p.templateData }

/-- `publish_template`, on a tip change with the previous hash. -/
def publishTemplate (data : TemplateData) (futureTemplate sendSetNewPrevHash : Bool) :
    TemplatePublisher :=
  let stored := p.storeTemplateData data
  let current :=
    if sendSetNewPrevHash then { stored with currentPrevHash := some data.prevHash } else stored
  let sent := { current with
    outgoingMessages :=
      current.outgoingMessages ++ data.messages futureTemplate sendSetNewPrevHash }
  sent.pruneTemplateDataForPrevHash data.prevHash

/-- `process_stale_template_data`: a task falls asleep. -/
def processStaleTemplateData (tip : UInt64) (staleTemplateIds : List UInt64) :
    TemplatePublisher :=
  { p with staleTasks := p.staleTasks ++ [⟨tip, staleTemplateIds⟩] }

/-- An answer to `waitNext` in `monitor_ipc_templates`: a new tip, or more fees on the
current one.  Without a current previous hash the publisher stops. -/
def waitNextAnswered (block : BlockTemplate) : Option TemplatePublisher :=
  let fetched := p.fetchTemplateData block
  match p.currentPrevHash with
  | none => none
  | some currentPrevHash =>
    if block.prevHash ≠ currentPrevHash then
      some ((fetched.2.publishTemplate fetched.1 true true).processStaleTemplateData
        fetched.1.templateId fetched.2.currentTemplateIds)
    else some (fetched.2.publishTemplate fetched.1 false false)

/-- A task of `process_stale_template_data` wakes up. -/
def removeStale (k : ℕ) : Option TemplatePublisher :=
  match p.staleTasks[k]? with
  | none => none
  | some task =>
    some { p with
      staleTemplateIds := task.staleTemplateIds
      templateData := task.staleTemplateIds.foldl (fun m id => m.erase id) p.templateData
      staleTasks := p.staleTasks.eraseIdx k }

/-- `handle_submit_solution`: the template of the solution, or `TemplateNotFound`. -/
def handleSubmitSolution (solution : SubmitSolution) : Option TemplateData :=
  p.templateData.lookup solution.templateId

end TemplatePublisher

/-! ## What is evicted -/

/-- **Evicted ids are old.**  Above an evicted id there are as many ids as are retained. -/
theorem length_le_of_mem_oldestTemplateIdsToEvict {ids : List UInt64} {keep : ℕ} {id : UInt64}
    (hnodup : ids.Nodup) (h : id ∈ oldestTemplateIdsToEvict ids keep) :
    keep ≤ (ids.filter fun other => id < other).length := by
  unfold oldestTemplateIdsToEvict at h
  split at h
  · cases h
  rename_i hlen
  have hsorted : (ids.insertionSort (· ≤ ·)).Pairwise (· ≤ ·) :=
    List.pairwise_insertionSort (· ≤ ·) ids
  have hperm : (ids.insertionSort (· ≤ ·)).Perm ids := List.perm_insertionSort (· ≤ ·) ids
  have hsplit := List.take_append_drop (ids.length - keep) (ids.insertionSort (· ≤ ·))
  have hnodup' := hperm.nodup_iff.2 hnodup
  rw [← hsplit] at hsorted hnodup' hperm
  -- The ids that stay come after the evicted ones, and are different.
  have hall : ∀ other ∈ (ids.insertionSort (· ≤ ·)).drop (ids.length - keep), id < other := by
    intro other hother
    have hle := (List.pairwise_append.1 hsorted).2.2 id h other hother
    have hne : id ≠ other := (List.nodup_append.1 hnodup').2.2 id h other hother
    exact UInt64.lt_of_le_of_ne hle hne
  have hdrop : ((ids.insertionSort (· ≤ ·)).drop (ids.length - keep)).length = keep := by
    rw [List.length_drop, List.length_insertionSort]
    omega
  have hkept : ((ids.insertionSort (· ≤ ·)).drop (ids.length - keep)).filter
      (fun other => decide (id < other)) =
        (ids.insertionSort (· ≤ ·)).drop (ids.length - keep) :=
    List.filter_eq_self.2 (by simpa using hall)
  rw [← (hperm.filter _).length_eq, List.filter_append, List.length_append, hkept, hdrop]
  omega

/-- **Old ids are evicted**: all with as many ids above them as are retained. -/
theorem mem_oldestTemplateIdsToEvict {ids : List UInt64} {keep : ℕ} {id : UInt64}
    (hid : id ∈ ids) (h : keep ≤ (ids.filter fun other => id < other).length) :
    id ∈ oldestTemplateIdsToEvict ids keep := by
  have hlen : (ids.filter fun other => id < other).length < ids.length :=
    List.length_filter_lt_length_iff_exists.2 ⟨id, hid, by simp⟩
  have hperm : (ids.insertionSort (· ≤ ·)).Perm ids := List.perm_insertionSort (· ≤ ·) ids
  have hsorted : (ids.insertionSort (· ≤ ·)).Pairwise (· ≤ ·) :=
    List.pairwise_insertionSort (· ≤ ·) ids
  rw [oldestTemplateIdsToEvict, if_neg (by omega)]
  have hsplit := List.take_append_drop (ids.length - keep) (ids.insertionSort (· ≤ ·))
  rw [← hsplit] at hperm hsorted
  by_contra hmem
  have hdrop := (List.mem_append.1 (hperm.mem_iff.2 hid)).resolve_left hmem
  -- Were the id retained, all ids above it would be retained, and be one less.
  have htake : ((ids.insertionSort (· ≤ ·)).take (ids.length - keep)).filter
      (fun other => decide (id < other)) = [] := by
    refine List.filter_eq_nil_iff.2 fun other hother => ?_
    have hle := (List.pairwise_append.1 hsorted).2.2 other hother id hdrop
    simpa using hle
  have hkept : (((ids.insertionSort (· ≤ ·)).drop (ids.length - keep)).filter
      fun other => id < other).length < keep := by
    have hlt : (((ids.insertionSort (· ≤ ·)).drop (ids.length - keep)).filter
        fun other => id < other).length <
          ((ids.insertionSort (· ≤ ·)).drop (ids.length - keep)).length :=
      List.length_filter_lt_length_iff_exists.2 ⟨id, hdrop, by simp⟩
    rw [List.length_drop, List.length_insertionSort] at hlt
    omega
  rw [← (hperm.filter _).length_eq, List.filter_append, List.length_append, htake] at h
  simp only [List.length_nil, Nat.zero_add] at h
  omega

namespace TemplatePublisher

variable {p : TemplatePublisher} {n : ℕ} {id : UInt64} {data : TemplateData}

/-- The data is kept under its own id, and all ids are below `n`. -/
structure IdsBelow (p : TemplatePublisher) (n : ℕ) : Prop where
  own : ∀ id data, p.templateData.lookup id = some data → data.templateId = id
  below : ∀ id data, p.templateData.lookup id = some data → id.toNat < n

theorem mem_templateIdsOfPrevHash (h : p.IdsBelow n) {prevHash : BitVec 256} :
    id ∈ p.templateIdsOfPrevHash prevHash ↔
      ∃ data, p.templateData.lookup id = some data ∧ data.prevHash = prevHash := by
  simp only [templateIdsOfPrevHash, List.mem_map, List.mem_filter, AssocMap.mem_values,
    decide_eq_true_eq]
  constructor
  · rintro ⟨data, ⟨⟨k, hk⟩, hprev⟩, rfl⟩
    rw [← h.own k data hk] at hk
    exact ⟨data, hk, hprev⟩
  · rintro ⟨data, hdata, hprev⟩
    exact ⟨data, ⟨⟨id, hdata⟩, hprev⟩, h.own id data hdata⟩

theorem nodup_templateIdsOfPrevHash (h : p.IdsBelow n) (prevHash : BitVec 256) :
    (p.templateIdsOfPrevHash prevHash).Nodup := by
  have hkeys : p.templateData.values.map (·.templateId) = p.templateData.keys := by
    rw [AssocMap.values, List.map_map]
    exact List.map_congr_left fun e he =>
      h.own e.1 e.2 (AssocMap.lookup_eq_some.2 he)
  have hnodup : (p.templateData.values.map (·.templateId)).Nodup := by
    rw [hkeys]
    exact p.templateData.keys_nodup
  exact hnodup.sublist (List.filter_sublist.map _)

theorem lookup_prune_eq (p : TemplatePublisher) (prevHash : BitVec 256) (id : UInt64) :
    (p.pruneTemplateDataForPrevHash prevHash).templateData.lookup id =
      if id ∈ oldestTemplateIdsToEvict (p.templateIdsOfPrevHash prevHash)
        maxRetainedTemplatesPerPrevHash then none else p.templateData.lookup id :=
  AssocMap.lookup_foldl_erase _ _ _

theorem mem_of_mem_oldestTemplateIdsToEvict {ids : List UInt64} {keep : ℕ}
    (h : id ∈ oldestTemplateIdsToEvict ids keep) : id ∈ ids := by
  unfold oldestTemplateIdsToEvict at h
  split at h
  · cases h
  · exact (List.mem_insertionSort _).1 (List.mem_of_mem_take h)

/-- **What a publish keeps**: templates of another previous hash, and those whose ids are
among the last 256. -/
theorem lookup_pruneTemplateDataForPrevHash (h : p.IdsBelow n) {prevHash : BitVec 256}
    (hdata : p.templateData.lookup id = some data)
    (hkept : data.prevHash ≠ prevHash ∨ n ≤ id.toNat + maxRetainedTemplatesPerPrevHash) :
    (p.pruneTemplateDataForPrevHash prevHash).templateData.lookup id = some data := by
  rw [lookup_prune_eq, hdata, ite_eq_right_iff]
  intro hmem
  exfalso
  have hsame : data.prevHash = prevHash := by
    obtain ⟨data', hdata', hprev⟩ :=
      (mem_templateIdsOfPrevHash h).1 (mem_of_mem_oldestTemplateIdsToEvict hmem)
    have heq : data' = data := Option.some.inj (hdata'.symm.trans hdata)
    exact heq ▸ hprev
  have hn := hkept.resolve_left (not_not.2 hsame)
  have hnodup := nodup_templateIdsOfPrevHash h prevHash
  have hcount := length_le_of_mem_oldestTemplateIdsToEvict hnodup hmem
  -- The ids above the evicted one are different numbers between it and `n`.
  have hlt := h.below id data hdata
  have hsub : (((p.templateIdsOfPrevHash prevHash).filter fun other => id < other).map
      UInt64.toNat).toFinset ⊆ Finset.Ioo id.toNat n := by
    intro i hi
    simp only [List.mem_toFinset, List.mem_map, List.mem_filter, decide_eq_true_eq] at hi
    obtain ⟨other, ⟨hother, habove⟩, rfl⟩ := hi
    obtain ⟨data', hdata', -⟩ := (mem_templateIdsOfPrevHash h).1 hother
    exact Finset.mem_Ioo.2 ⟨UInt64.lt_iff_toNat_lt.1 habove, h.below other data' hdata'⟩
  have hcard := Finset.card_le_card hsub
  rw [List.toFinset_card_of_nodup ((hnodup.filter _).map fun _ _ => UInt64.toNat_inj.1),
    List.length_map, Nat.card_Ioo] at hcard
  unfold maxRetainedTemplatesPerPrevHash at *
  omega

/-- **What a publish forgets**: a template followed by 256 others of its previous hash. -/
theorem lookup_prune_eq_none (data : TemplateData) (h : p.IdsBelow n) {prevHash : BitVec 256}
    (hdata : p.templateData.lookup id = some data) (hprev : data.prevHash = prevHash)
    (hold : id.toNat + maxRetainedTemplatesPerPrevHash < n)
    (hall : ∀ i, id.toNat < i → i < n → ∃ other : UInt64, other.toNat = i ∧
      ∃ data, p.templateData.lookup other = some data ∧ data.prevHash = prevHash) :
    (p.pruneTemplateDataForPrevHash prevHash).templateData.lookup id = none := by
  rw [lookup_prune_eq, if_pos]
  refine mem_oldestTemplateIdsToEvict
    ((mem_templateIdsOfPrevHash h).2 ⟨data, hdata, hprev⟩) ?_
  have hsub : Finset.Ioo id.toNat n ⊆ (((p.templateIdsOfPrevHash prevHash).filter
      fun other => id < other).map UInt64.toNat).toFinset := by
    intro i hi
    obtain ⟨hlt, hlt'⟩ := Finset.mem_Ioo.1 hi
    obtain ⟨other, rfl, hother⟩ := hall i hlt hlt'
    simp only [List.mem_toFinset, List.mem_map, List.mem_filter, decide_eq_true_eq]
    exact ⟨other, ⟨(mem_templateIdsOfPrevHash h).2 hother, UInt64.lt_iff_toNat_lt.2 hlt⟩, rfl⟩
  have hcard := (Finset.card_le_card hsub).trans (List.toFinset_card_le _)
  rw [List.length_map, Nat.card_Ioo] at hcard
  omega

/-! ## What the steps do -/

/-- The publisher before and after a publish of `data`. -/
structure Published (p p' : TemplatePublisher) (data : TemplateData) : Prop where
  templateId : data.templateId = p.templateIdFactory
  templateIdFactory : p'.templateIdFactory = p.templateIdFactory + 1
  known : p'.templateData.lookup p.templateIdFactory = some data
  before : ∀ id d, p'.templateData.lookup id = some d →
    id = p.templateIdFactory ∧ d = data ∨ p.templateData.lookup id = some d
  kept : ∀ id d, p.templateData.lookup id = some d →
    (d.prevHash ≠ data.prevHash ∨
      p.templateIdFactory.toNat + 1 ≤ id.toNat + maxRetainedTemplatesPerPrevHash) →
      p'.templateData.lookup id = some d
  forgotten : ∀ id d, p.templateData.lookup id = some d → d.prevHash = data.prevHash →
    id.toNat + maxRetainedTemplatesPerPrevHash ≤ p.templateIdFactory.toNat →
    (∀ other : UInt64, id < other → other < p.templateIdFactory →
      ∃ d, p.templateData.lookup other = some d ∧ d.prevHash = data.prevHash) →
      p'.templateData.lookup id = none
  idsBelow : p'.IdsBelow (p.templateIdFactory.toNat + 1)

theorem published_publishTemplate (h : p.IdsBelow p.templateIdFactory.toNat)
    (block : BlockTemplate) (futureTemplate sendSetNewPrevHash : Bool) :
    Published p ((p.fetchTemplateData block).2.publishTemplate (p.fetchTemplateData block).1
      futureTemplate sendSetNewPrevHash) (p.fetchTemplateData block).1 := by
  have hold : ∀ id d, p.templateData.lookup id = some d → id ≠ p.templateIdFactory := by
    rintro id d hd rfl
    exact lt_irrefl _ (h.below _ d hd)
  -- The publisher that is pruned has the templates of before and the new one.
  obtain ⟨stored, hstored, hpruned, hfactory⟩ : ∃ stored : TemplatePublisher,
      (∀ id, stored.templateData.lookup id = if id = p.templateIdFactory then
        some (p.fetchTemplateData block).1 else p.templateData.lookup id) ∧
      (p.fetchTemplateData block).2.publishTemplate (p.fetchTemplateData block).1 futureTemplate
        sendSetNewPrevHash = stored.pruneTemplateDataForPrevHash block.prevHash ∧
      stored.templateIdFactory = p.templateIdFactory + 1 := by
    refine ⟨_, fun id => ?_, rfl, ?_⟩
    · cases sendSetNewPrevHash <;> exact AssocMap.lookup_insert_if _ _ _ _
    · cases sendSetNewPrevHash <;> rfl
  have hids : stored.IdsBelow (p.templateIdFactory.toNat + 1) := by
    refine ⟨fun id d hd => ?_, fun id d hd => ?_⟩
    · rw [hstored] at hd
      split at hd
      · rename_i heq
        rw [← Option.some.inj hd, heq]
        rfl
      · exact h.own id d hd
    · rw [hstored] at hd
      split at hd
      · rename_i heq
        rw [heq]
        exact Nat.lt_succ_self _
      · exact Nat.lt_succ_of_lt (h.below id d hd)
  have hbefore : ∀ id d, (stored.pruneTemplateDataForPrevHash block.prevHash).templateData.lookup
      id = some d → stored.templateData.lookup id = some d := by
    intro id d hd
    rw [lookup_prune_eq] at hd
    split at hd
    · cases hd
    · exact hd
  rw [hpruned]
  refine ⟨rfl, hfactory, ?_, fun id d hd => ?_, fun id d hd hkept => ?_,
    fun id d hd hprev hfar hall => ?_, ?_, ?_⟩
  · refine lookup_pruneTemplateDataForPrevHash hids ?_ (.inr ?_)
    · rw [hstored, if_pos rfl]
    · unfold maxRetainedTemplatesPerPrevHash
      omega
  · have hd' := hbefore id d hd
    rw [hstored] at hd'
    split at hd'
    · rename_i heq
      exact .inl ⟨heq, (Option.some.inj hd').symm⟩
    · exact .inr hd'
  · refine lookup_pruneTemplateDataForPrevHash hids ?_ hkept
    rw [hstored, if_neg (hold id d hd)]
    exact hd
  · refine lookup_prune_eq_none d hids ?_ hprev (Nat.lt_succ_of_le hfar)
      fun i hlt hlt' => ?_
    · rw [hstored, if_neg (hold id d hd)]
      exact hd
    · have hi : (UInt64.ofNat i).toNat = i := by
        have hbound : i < 2 ^ 64 :=
          Nat.lt_of_le_of_lt (Nat.le_of_lt_succ hlt') p.templateIdFactory.toNat_lt
        exact UInt64.toNat_ofNat_of_lt' hbound
      refine ⟨UInt64.ofNat i, hi, ?_⟩
      rw [hstored]
      by_cases hnew : UInt64.ofNat i = p.templateIdFactory
      · exact ⟨_, if_pos hnew, rfl⟩
      · rw [if_neg hnew]
        refine hall _ (UInt64.lt_iff_toNat_lt.2 (by rw [hi]; exact hlt)) ?_
        exact UInt64.lt_of_le_of_ne (UInt64.le_iff_toNat_le.2 (by omega)) hnew
  · exact fun id d hd => hids.own id d (hbefore id d hd)
  · exact fun id d hd => hids.below id d (hbefore id d hd)

/-- A publish of a template of the current tip. -/
structure MempoolPublished (p p' : TemplatePublisher) (data : TemplateData) : Prop
    extends Published p p' data where
  prevHash : p.currentPrevHash = some data.prevHash
  currentPrevHash : p'.currentPrevHash = p.currentPrevHash
  outgoingMessages : p'.outgoingMessages =
    p.outgoingMessages ++ [.newTemplate (data.getNewTemplateMessage false)]
  staleTasks : p'.staleTasks = p.staleTasks

/-- A publish of a new tip. -/
structure TipPublished (p p' : TemplatePublisher) (data : TemplateData) : Prop
    extends Published p p' data where
  prevHash : ∃ old, p.currentPrevHash = some old ∧ data.prevHash ≠ old
  currentPrevHash : p'.currentPrevHash = some data.prevHash
  outgoingMessages : p'.outgoingMessages = p.outgoingMessages ++
    [.newTemplate (data.getNewTemplateMessage true),
      .setNewPrevHash data.getSetNewPrevHashMessage]
  staleTasks : p'.staleTasks =
    p.staleTasks ++ [⟨p.templateIdFactory, p.currentTemplateIds⟩]

/-- **What an answer to `waitNext` does.** -/
theorem published_waitNextAnswered {p' : TemplatePublisher} {block : BlockTemplate}
    (h : p.IdsBelow p.templateIdFactory.toNat) (hanswered : p.waitNextAnswered block = some p') :
    ∃ data, data.prevHash = block.prevHash ∧
      (MempoolPublished p p' data ∨ TipPublished p p' data) := by
  refine ⟨(p.fetchTemplateData block).1, rfl, ?_⟩
  simp only [waitNextAnswered] at hanswered
  split at hanswered
  · cases hanswered
  · rename_i current hcurrent
    split at hanswered
    · rename_i hne
      have hpublished := published_publishTemplate h block true true
      right
      cases hanswered
      exact ⟨⟨rfl, rfl, hpublished.known, hpublished.before, hpublished.kept,
        hpublished.forgotten, hpublished.idsBelow.own, hpublished.idsBelow.below⟩,
        ⟨current, hcurrent, hne⟩, rfl, rfl, rfl⟩
    · rename_i heq
      have hpublished := published_publishTemplate h block false false
      left
      cases hanswered
      exact ⟨hpublished, hcurrent.trans (by rw [← not_not.1 heq]; rfl), rfl, rfl, rfl⟩

/-- **What a task that wakes up does**: the templates it was given are gone. -/
theorem removed_removeStale {p' : TemplatePublisher} {k : ℕ} (h : p.removeStale k = some p') :
    ∃ task, p.staleTasks[k]? = some task ∧ p'.staleTasks = p.staleTasks.eraseIdx k ∧
      p'.templateIdFactory = p.templateIdFactory ∧ p'.currentPrevHash = p.currentPrevHash ∧
      p'.outgoingMessages = p.outgoingMessages ∧
      ∀ id, p'.templateData.lookup id =
        if id ∈ task.staleTemplateIds then none else p.templateData.lookup id := by
  simp only [removeStale] at h
  split at h
  · cases h
  · rename_i task htask
    cases h
    exact ⟨task, htask, rfl, rfl, rfl, rfl,
      fun id => AssocMap.lookup_foldl_erase _ _ _⟩

end TemplatePublisher

end CanaryMining
