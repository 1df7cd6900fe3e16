import CanaryMining.Node.System
import CanaryMining.TemplateDistribution.Available
import Mathlib.Data.List.InsertIdx

/-!
# The publisher behind the tasks

The results about the pool and its templates rest on a publisher that takes an id, fetches a
template and announces it in one step.  The tasks of the provider take several steps for this,
in between those of other tasks.  Still they do no more than the publisher: each of their steps
is matched by at most one of the publisher, which answers `waitNext`, lets a task wake up,
bootstraps, or skips the id of a template that could not be fetched or announced.

## Main definitions

* `TemplateData.summary`, `ProviderMessage.template?` — what the publisher keeps of a template,
  and what it says.
* `PublisherAction`, `TemplatePublisher.next` — the steps of the publisher.
* `Refines` — the provider's tasks have done what the publisher has.

**Main result:** `publisher_of_run`.
-/

namespace CanaryMining

open AssocMap

/-! ## The steps of the publisher -/

/-- The steps of the publisher. -/
inductive PublisherAction
  | bootstrap (block : BlockTemplate)
  | waitNextAnswered (block : BlockTemplate)
  | removeStale (k : ℕ)
  | skip

namespace TemplatePublisher

/-- The publisher before it has published anything. -/
def new : TemplatePublisher := ⟨none, ∅, [], 0, [], []⟩

/-- A step of the publisher. -/
def next (q : TemplatePublisher) : PublisherAction → Option TemplatePublisher
  | .bootstrap block =>
    let fetched := q.fetchTemplateData block
    some (fetched.2.publishTemplate fetched.1 true true)
  | .waitNextAnswered block => q.waitNextAnswered block
  | .removeStale k => q.removeStale k
  | .skip => some { q with templateIdFactory := q.templateIdFactory + 1 }

variable {q : TemplatePublisher} {data : CanaryMining.TemplateData}

theorem currentPrevHash_publishTemplate (tip : Bool) :
    (q.publishTemplate data tip tip).currentPrevHash =
      if tip then some data.prevHash else q.currentPrevHash := by
  cases tip <;> rfl

theorem outgoingMessages_publishTemplate (tip : Bool) :
    (q.publishTemplate data tip tip).outgoingMessages =
      q.outgoingMessages ++ data.messages tip tip := by
  cases tip <;> rfl

/-- A publish changes nothing else. -/
theorem publishTemplate_rest (q : TemplatePublisher) (data : CanaryMining.TemplateData)
    (tip : Bool) :
    (q.publishTemplate data tip tip).staleTemplateIds = q.staleTemplateIds ∧
      (q.publishTemplate data tip tip).templateIdFactory = q.templateIdFactory ∧
        (q.publishTemplate data tip tip).staleTasks = q.staleTasks := by
  cases tip <;> exact ⟨rfl, rfl, rfl⟩

/-- More fees on the current tip. -/
theorem waitNextAnswered_mempool {block : BlockTemplate}
    (hprev : q.currentPrevHash = some block.prevHash) :
    q.waitNextAnswered block = some ((q.fetchTemplateData block).2.publishTemplate
      (q.fetchTemplateData block).1 false false) := by
  simp only [waitNextAnswered, hprev, ne_eq, not_true_eq_false, if_false]

/-- A tip change. -/
theorem waitNextAnswered_tip {block : BlockTemplate} {prevHash : BitVec 256}
    (hprev : q.currentPrevHash = some prevHash) (hne : block.prevHash ≠ prevHash) :
    q.waitNextAnswered block = some { (q.fetchTemplateData block).2.publishTemplate
      (q.fetchTemplateData block).1 true true with
        staleTasks := q.staleTasks ++ [⟨q.templateIdFactory, q.currentTemplateIds⟩] } := by
  simp only [waitNextAnswered, hprev, if_pos hne]
  rfl

/-- The first step of a publisher: it has the first template, and nothing is stale. -/
theorem next_bootstrap_new (block : BlockTemplate) :
    new.next (.bootstrap block) = some
      ⟨some block.prevHash, (∅ : AssocMap UInt64 CanaryMining.TemplateData).insert 0
        (new.fetchTemplateData block).1, [], 1, (new.fetchTemplateData block).1.messages true true,
          []⟩ := by
  have hfew : ∀ p : TemplatePublisher, p.templateData.values.length ≤ 1 → ∀ prevHash,
      p.pruneTemplateDataForPrevHash prevHash = p := by
    intro p hvalues prevHash
    have hlen : (p.templateIdsOfPrevHash prevHash).length ≤ maxRetainedTemplatesPerPrevHash := by
      rw [templateIdsOfPrevHash, List.length_map]
      exact (List.length_filter_le _ _).trans (hvalues.trans (by decide))
    rw [pruneTemplateDataForPrevHash, oldestTemplateIdsToEvict, if_pos hlen]
    rfl
  exact congrArg some (hfew _ le_rfl block.prevHash)

/-- The node and the pool start with a publisher that has published its first template, both
messages of which are handled. -/
theorem next_bootstrap_of_startedWith {F : Type} {X : ChannelsSv2 F} {s : Node X}
    (h : Node.StartedWith data s) : ∃ block published,
      new.next (.bootstrap block) = some published ∧
        published.outgoingMessages = data.messages true true ∧
        s.publisher = { published with outgoingMessages := [] } := by
  let block : BlockTemplate :=
    ⟨data.prevHash, data.blockRewardRemaining, data.ntime, data.nbits⟩
  have hdata : (new.fetchTemplateData block).1 = data := by
    rw [fetchTemplateData, new, ← h.templateId]
  refine ⟨block, _, next_bootstrap_new block, ?_, ?_⟩
  · rw [hdata]
  · rw [hdata, h.publisher]

end TemplatePublisher

namespace Tdp

variable {Client : Type}

/-! ## What the publisher keeps and says -/

/-- What the publisher keeps of a template. -/
def TemplateData.summary (data : TemplateData Client) : CanaryMining.TemplateData :=
  ⟨data.templateId, data.getPrevHash, data.blockRewardRemaining, data.header.time,
    data.header.bits⟩

/-- The template, as the node tells of it. -/
def TemplateData.block (data : TemplateData Client) : BlockTemplate :=
  ⟨data.getPrevHash, data.blockRewardRemaining, data.header.time, data.header.bits⟩

/-- What the pool reads of an announcement. -/
def ProviderMessage.template? : ProviderMessage → Option TemplateMessage
  | .newTemplate message => some (.newTemplate
      ⟨message.templateId, message.futureTemplate, message.coinbaseTxValueRemaining⟩)
  | .setNewPrevHash message => some (.setNewPrevHash
      ⟨message.templateId, message.prevHash, message.headerTimestamp, message.nBits⟩)
  | _ => none

theorem filterMap_messages {L : BitcoinLib} (ann : Announcement L Client) :
    ann.messages.filterMap ProviderMessage.template? =
      ann.data.summary.messages ann.tip ann.tip := by
  obtain ⟨data, tip, newTemplate, hmessage⟩ := ann
  have hannounces := announces_of_getNewTemplateMessage hmessage
  have hread : ProviderMessage.template? (.newTemplate newTemplate) =
      some (.newTemplate (data.summary.getNewTemplateMessage tip)) := by
    rw [ProviderMessage.template?, hannounces.templateId, hannounces.futureTemplate,
      hannounces.coinbaseTxValueRemaining]
    rfl
  rw [Announcement.messages, BitcoinCoreSv2Tdp.announcement, List.filterMap_cons_some hread]
  cases tip <;> rfl

namespace BitcoinCoreSv2Tdp

variable {L : BitcoinLib} {p p' : BitcoinCoreSv2Tdp Client} {q : TemplatePublisher}
  {anns news : List (Announcement L Client)}
  {ts : List (Transition (BitcoinCoreSv2Tdp Client) (TdpAction Client))}

/-- The templates that both retain after a publish. -/
theorem templateData_publishTemplate
    (h : q.templateData = mapVals (fun _ => TemplateData.summary) p.templateData)
    (data : TemplateData Client) (tip : Bool) :
    (q.publishTemplate data.summary tip tip).templateData =
      mapVals (fun _ => TemplateData.summary) (p.retainedWith data) := by
  have hstored : q.templateData.insert data.templateId data.summary =
      mapVals (fun _ => TemplateData.summary) (p.templateData.insert data.templateId data) := by
    rw [h, mapVals_insert]
  have hpublished : (q.publishTemplate data.summary tip tip).templateData =
      ((q.storeTemplateData data.summary).pruneTemplateDataForPrevHash
        data.getPrevHash).templateData := by
    cases tip <;> rfl
  have hids : (q.storeTemplateData data.summary).templateIdsOfPrevHash data.getPrevHash =
      templateIdsOfPrevHash (p.templateData.insert data.templateId data) data.getPrevHash := by
    rw [TemplatePublisher.templateIdsOfPrevHash, templateIdsOfPrevHash]
    rw [show (q.storeTemplateData data.summary).templateData = _ from hstored, values_mapVals,
      List.filter_map, List.map_map]
    rfl
  rw [hpublished, retainedWith, mapVals_foldl_erase, ← hstored,
    TemplatePublisher.pruneTemplateDataForPrevHash, hids]
  rfl

/-! ## The simulation -/

/-- The tasks have done what the publisher has.  A task may have taken the id that the publisher
takes next. -/
structure Refines (p : BitcoinCoreSv2Tdp Client) (q : TemplatePublisher) : Prop where
  currentPrevHash : q.currentPrevHash = p.currentPrevHash
  templateData : q.templateData = mapVals (fun _ => TemplateData.summary) p.templateData
  staleTemplateIds : q.staleTemplateIds = p.staleTemplateIds
  staleTasks : q.staleTasks.map (·.staleTemplateIds) = p.staleTasks
  outgoingMessages : q.outgoingMessages = p.announced.filterMap ProviderMessage.template?
  next : p.heldIds = [] → q.templateIdFactory = p.templateIdFactory
  taken : ∀ id ∈ p.heldIds,
    id = q.templateIdFactory ∧ p.templateIdFactory = q.templateIdFactory + 1

theorem refines_new : Refines (new : BitcoinCoreSv2Tdp Client) .new :=
  ⟨rfl, rfl, rfl, rfl, rfl, fun _ => rfl, fun _ h => absurd h List.not_mem_nil⟩

/-- The templates are the same, and the id that is taken next. -/
theorem Refines.of_sameTemplates (h : Refines p q) (hsame : SameTemplates p p')
    {templateIdFactory : UInt64}
    (hnext : p'.heldIds = [] → templateIdFactory = p'.templateIdFactory)
    (htaken : ∀ id ∈ p'.heldIds,
      id = templateIdFactory ∧ p'.templateIdFactory = templateIdFactory + 1) :
    Refines p' { q with templateIdFactory := templateIdFactory } where
  currentPrevHash := h.currentPrevHash.trans hsame.currentPrevHash.symm
  templateData := by
    rw [hsame.templateData]
    exact h.templateData
  staleTemplateIds := h.staleTemplateIds.trans hsame.staleTemplateIds.symm
  staleTasks := h.staleTasks.trans hsame.staleTasks.symm
  outgoingMessages := by
    rw [hsame.announced]
    exact h.outgoingMessages
  next := hnext
  taken := htaken

/-- The publisher does one step. -/
theorem matched {u : PublisherAction} {r : TemplatePublisher} (hs : q.next u = some r)
    (h : Refines p' r) : ∃ us q', Run (fun x => x = q) (Computes TemplatePublisher.next) us q' ∧
      Refines p' q' :=
  ⟨_, r, Run.next (.start rfl) hs, h⟩

/-- A publish of the tasks is one of the publisher. -/
theorem Refines.published (h : Refines p q) {ann : Announcement L Client}
    (hid : ann.data.templateId ∈ p.heldIds)
    (houtgoing : p'.outgoingMessages = p.outgoingMessages ++ ann.messages)
    (hfactory : p'.templateIdFactory = p.templateIdFactory)
    (hprev : p'.currentPrevHash =
      if ann.tip then some ann.data.getPrevHash else p.currentPrevHash)
    (hdata : p'.templateData = p.retainedWith ann.data)
    (hstale : p'.staleTemplateIds = p.staleTemplateIds) (hheld : p'.heldIds = [])
    {staleTasks : List StaleTask} (htasks : staleTasks.map (·.staleTemplateIds) = p'.staleTasks) :
    Refines p' { (q.fetchTemplateData ann.data.block).2.publishTemplate
      (q.fetchTemplateData ann.data.block).1 ann.tip ann.tip with staleTasks := staleTasks } := by
  obtain ⟨hnext, htaken⟩ := h.taken _ hid
  have hfetched : (q.fetchTemplateData ann.data.block).1 = ann.data.summary := by
    rw [TemplatePublisher.fetchTemplateData, ← hnext]
    rfl
  rw [hfetched]
  obtain ⟨hstale', hfactory', -⟩ := TemplatePublisher.publishTemplate_rest
    (q.fetchTemplateData ann.data.block).2 ann.data.summary ann.tip
  refine ⟨?_, ?_, ?_, htasks, ?_, fun _ => ?_, ?_⟩
  · rw [hprev, ← h.currentPrevHash]
    exact TemplatePublisher.currentPrevHash_publishTemplate ann.tip
  · rw [hdata]
    have hsame : (q.fetchTemplateData ann.data.block).2.templateData = _ := h.templateData
    exact templateData_publishTemplate hsame ann.data ann.tip
  · exact hstale'.trans (h.staleTemplateIds.trans hstale.symm)
  · rw [announced, houtgoing, List.filter_append, Announcement.filter_messages,
      List.filterMap_append, filterMap_messages, ← announced, ← h.outgoingMessages]
    exact TemplatePublisher.outgoingMessages_publishTemplate ann.tip
  · exact hfactory'.trans (htaken.symm.trans hfactory.symm)
  · intro id hmem
    rw [hheld] at hmem
    cases hmem

/-- **A step of the tasks is at most one of the publisher.** -/
theorem refines_step (h : Refines p q) (htold : Told L p anns)
    (hstep : TemplateStep L p p' news) :
    ∃ us q', Run (fun x => x = q) (Computes TemplatePublisher.next) us q' ∧ Refines p' q' := by
  cases hstep with
  | kept hsame hfactory hheld =>
    by_cases hlost : p'.heldIds = [] ∧ p.heldIds ≠ []
    · obtain ⟨id, hid⟩ := List.exists_mem_of_ne_nil _ hlost.2
      refine matched (u := .skip) rfl (h.of_sameTemplates hsame (fun _ => ?_) ?_)
      · rw [hfactory, (h.taken id hid).2]
      · intro id hmem
        rw [hlost.1] at hmem
        cases hmem
    · refine ⟨[], q, .start rfl, h.of_sameTemplates hsame (fun hnone => ?_) fun id hid => ?_⟩
      · rw [hfactory]
        exact h.next (by_contra fun hsome => hlost ⟨hnone, hsome⟩)
      · rw [hfactory]
        exact h.taken id (hheld.heldIds hid)
  | took hsame hfactory hheld hexclusive hholding =>
    obtain ⟨hnone, htaken⟩ := hheld htold.exclusive
    refine ⟨[], q, .start rfl, h.of_sameTemplates hsame (fun hempty => ?_) fun id hid => ?_⟩
    · rw [htaken] at hempty
      cases hempty
    · rw [htaken] at hid
      rw [List.mem_singleton.1 hid, hfactory, h.next hnone]
      exact ⟨rfl, rfl⟩
  | held data hsame hfactory hids hexclusive hmonitor hprev =>
    refine ⟨[], q, .start rfl, h.of_sameTemplates hsame (fun hnone => ?_) fun id hid => ?_⟩
    · rw [hfactory]
      exact h.next (hids ▸ hnone)
    · rw [hfactory]
      exact h.taken id (hids ▸ hid)
  | published ann hid htip houtgoing hfactory hprev hdata hstale htasks hexclusive hnotHolding =>
    have hnone := (hexclusive htold.exclusive).2
    rcases htasks with hsame | ⟨⟨htrue, prevHash, hcurrent, hne⟩, hnew⟩
    · have hkept := h.published hid houtgoing hfactory hprev hdata hstale hnone
        (h.staleTasks.trans hsame.symm)
      cases hcase : ann.tip with
      | false =>
        have hcurrent : q.currentPrevHash = some ann.data.block.prevHash :=
          h.currentPrevHash.trans (htold.holding ann.data (htip hcase))
        rw [hcase] at hkept
        exact matched (u := .waitNextAnswered ann.data.block)
          (TemplatePublisher.waitNextAnswered_mempool hcurrent) hkept
      | true =>
        rw [hcase] at hkept
        exact matched (u := .bootstrap ann.data.block) rfl hkept
    · have htasks : (q.staleTasks ++ [StaleTask.mk q.templateIdFactory q.currentTemplateIds]).map
          (·.staleTemplateIds) = p'.staleTasks := by
        rw [List.map_append, h.staleTasks, hnew, List.map_singleton,
          TemplatePublisher.currentTemplateIds, h.templateData, keys_mapVals]
      have hextended := h.published hid houtgoing hfactory hprev hdata hstale hnone htasks
      rw [htrue] at hextended
      exact matched (u := .waitNextAnswered ann.data.block)
        (TemplatePublisher.waitNextAnswered_tip (h.currentPrevHash.trans hcurrent) hne) hextended
  | removed k ids hids hannounced hprev hfactory hheld hheldIds hdata hstale htasks =>
    rw [← h.staleTasks, List.getElem?_map] at hids
    obtain ⟨task, htask, rfl⟩ := Option.map_eq_some_iff.1 hids
    refine matched (u := .removeStale k) (r := { q with
      staleTemplateIds := task.staleTemplateIds
      templateData := task.staleTemplateIds.foldl (fun m id => m.erase id) q.templateData
      staleTasks := q.staleTasks.eraseIdx k }) ?_ ⟨?_, ?_, hstale.symm, ?_, ?_, ?_, ?_⟩
    · simp only [TemplatePublisher.next, TemplatePublisher.removeStale, htask]
    · exact h.currentPrevHash.trans hprev.symm
    · rw [hdata, mapVals_foldl_erase, h.templateData]
    · rw [htasks, ← h.staleTasks]
      exact (List.eraseIdx_map _ _ _).symm
    · rw [hannounced]
      exact h.outgoingMessages
    · rw [hheldIds, hfactory]
      exact h.next
    · rw [hheldIds, hfactory]
      exact h.taken

/-- **The tasks do what the publisher does**, in every run. -/
theorem publisher_of_run (h : Run (fun p => p = new) (Computes (next L)) ts p) :
    ∃ us q, Run (fun q => q = .new) (Computes TemplatePublisher.next) us q ∧ Refines p q := by
  refine Run.simulate (I := fun p => ∃ anns : List (Announcement L Client), Told L p anns)
    (fun ts p h => ⟨_, told_of_run h⟩) ?_ ?_ h
  · rintro p rfl
    exact ⟨.new, rfl, refines_new⟩
  · rintro p a p' q ⟨anns, htold⟩ hrefines hs
    exact refines_step hrefines htold (templateStep_of_tdpStep (tdpStep_of_next hs))

end BitcoinCoreSv2Tdp

end Tdp

end CanaryMining
