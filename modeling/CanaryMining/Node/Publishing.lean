import CanaryMining.Node.Epoch

/-!
# What the publisher knows of an epoch

The publisher is ahead of the manager by one template at most.  Its sleeping
tasks hold the templates of earlier tips, and after a tip change those of the
tip the manager is still at.

## Main definitions

* `Publishes` — what the publisher knows in an epoch.

**Main results:** `Publishes.mempoolPublished`, `Publishes.tipPublished`,
`Publishes.removed`.
-/

namespace CanaryMining

open TemplatePublisher

/-- **What the publisher knows.** -/
structure Publishes (e : Epoch) (p : TemplatePublisher) : Prop where
  idsBelow : p.IdsBelow p.templateIdFactory.toNat
  templateIdFactory : p.templateIdFactory.toNat =
    (e.stage.pending.map fun data => data.templateId.toNat).getD e.latest + 1
  outgoingMessages : p.outgoingMessages = e.stage.outgoingMessages
  currentPrevHash :
    p.currentPrevHash = some ((e.stage.newTip.map fun data => data.prevHash).getD e.prevHash)
  pending : ∀ data, e.stage.pending = some data → data.templateId.toNat = e.latest + 1 ∧
    p.templateData.lookup data.templateId = some data
  mempool : ∀ data, e.stage = .mempool data → data.prevHash = e.prevHash
  tip : ∀ id data, p.templateData.lookup id = some data → id.toNat = e.tip →
    data.prevHash = e.prevHash
  /-- A task that sleeps forgets templates of earlier tips, or belongs to the new one. -/
  staleTasks : ∀ task ∈ p.staleTasks, (∀ id ∈ task.staleTemplateIds, id.toNat < e.tip) ∨
    ∃ data, e.stage.newTip = some data ∧ task.tip = data.templateId ∧
      ∀ id ∈ task.staleTemplateIds, id.toNat ≤ e.latest

/-! ## The steps of the publisher -/

namespace Publishes

variable {e : Epoch} {p p' : TemplatePublisher} {data : TemplateData}

theorem stage_eq_settled (h : Publishes e p) (hnil : p.outgoingMessages = []) :
    e.stage = .settled := by
  have hstage := h.outgoingMessages.symm.trans hnil
  cases hs : e.stage with
  | settled => rfl
  | mempool data | tip data | prevHash data =>
    rw [hs] at hstage
    cases hstage

theorem toNat_templateIdFactory (hwrap : p.templateIdFactory.toNat + 1 < 2 ^ 64)
    (hpublished : Published p p' data) :
    p'.templateIdFactory.toNat = p.templateIdFactory.toNat + 1 := by
  rw [hpublished.templateIdFactory, UInt64.toNat_add]
  exact Nat.mod_eq_of_lt hwrap

/-- What every publish adds to a settled publisher. -/
theorem published (h : Publishes e p) (hsettled : e.stage = .settled) (htip : e.tip ≤ e.latest)
    (hpublished : Published p p' data) : data.templateId.toNat = e.latest + 1 ∧
      p'.templateData.lookup data.templateId = some data ∧
      ∀ id d, p'.templateData.lookup id = some d → id.toNat = e.tip → d.prevHash = e.prevHash := by
  have hfactory : p.templateIdFactory.toNat = e.latest + 1 := by
    rw [h.templateIdFactory, hsettled]
    rfl
  refine ⟨?_, ?_, fun id d hd hid => ?_⟩
  · rw [hpublished.templateId, hfactory]
  · rw [hpublished.templateId]
    exact hpublished.known
  · rcases hpublished.before id d hd with ⟨heq, -⟩ | hold
    · rw [heq, hfactory] at hid
      omega
    · exact h.tip id d hold hid

theorem staleTasks_of_settled (h : Publishes e p) (hsettled : e.stage = .settled)
    {task : StaleTask} (htask : task ∈ p.staleTasks) :
    ∀ id ∈ task.staleTemplateIds, id.toNat < e.tip := by
  rcases h.staleTasks task htask with hold | ⟨data, hdata, -⟩
  · exact hold
  · rw [hsettled] at hdata
    cases hdata

theorem mempoolPublished (h : Publishes e p) (hsettled : e.stage = .settled)
    (htip : e.tip ≤ e.latest) (hwrap : p.templateIdFactory.toNat + 1 < 2 ^ 64)
    (hpublished : MempoolPublished p p' data) :
    Publishes { e with stage := .mempool data } p' := by
  obtain ⟨hid, hknown, htips⟩ := h.published hsettled htip hpublished.toPublished
  have hfactory := toNat_templateIdFactory hwrap hpublished.toPublished
  have hprev : p.currentPrevHash = some e.prevHash := by
    rw [h.currentPrevHash, hsettled]
    rfl
  refine ⟨?_, ?_, ?_, ?_, ?_, ?_, htips, fun task htask => .inl ?_⟩
  · rw [hfactory]
    exact hpublished.idsBelow
  · rw [hfactory, ← hpublished.templateId]
    rfl
  · rw [hpublished.outgoingMessages, h.outgoingMessages, hsettled]
    rfl
  · rw [hpublished.currentPrevHash, hprev]
    rfl
  · rintro _ ⟨⟩
    exact ⟨hid, hknown⟩
  · rintro _ ⟨⟩
    exact (Option.some.inj (hprev.symm.trans hpublished.prevHash)).symm
  · rw [hpublished.staleTasks] at htask
    exact h.staleTasks_of_settled hsettled htask

theorem tipPublished (h : Publishes e p) (hsettled : e.stage = .settled)
    (htip : e.tip ≤ e.latest) (hwrap : p.templateIdFactory.toNat + 1 < 2 ^ 64)
    (hpublished : TipPublished p p' data) : Publishes { e with stage := .tip data } p' := by
  obtain ⟨hid, hknown, htips⟩ := h.published hsettled htip hpublished.toPublished
  have hfactory := toNat_templateIdFactory hwrap hpublished.toPublished
  refine ⟨?_, ?_, ?_, ?_, ?_, nofun, htips, fun task htask => ?_⟩
  · rw [hfactory]
    exact hpublished.idsBelow
  · rw [hfactory, ← hpublished.templateId]
    rfl
  · rw [hpublished.outgoingMessages, h.outgoingMessages, hsettled]
    rfl
  · rw [hpublished.currentPrevHash]
    rfl
  · rintro _ ⟨⟩
    exact ⟨hid, hknown⟩
  · rw [hpublished.staleTasks] at htask
    rcases List.mem_append.1 htask with hold | hnew
    · exact .inl (h.staleTasks_of_settled hsettled hold)
    · -- The new task is given the templates known before the change.
      right
      rw [List.mem_singleton] at hnew
      subst hnew
      refine ⟨data, rfl, hpublished.templateId.symm, fun id hmem => ?_⟩
      obtain ⟨d, hd⟩ := Option.isSome_iff_exists.1 (AList.lookup_isSome.2 (AList.mem_keys.2 hmem))
      have hlt := h.idsBelow.below id d hd
      rw [← hpublished.templateId, hid] at hlt
      exact Nat.le_of_lt_succ hlt

/-- A task that wakes up forgets neither the pending template nor what it was not given. -/
theorem removed (h : Publishes e p) (htip : e.tip ≤ e.latest) {k : ℕ}
    (hremove : p.removeStale k = some p') : Publishes e p' := by
  obtain ⟨task, htask, htasks, hfactory, hprev, hout, hlookup⟩ :=
    TemplatePublisher.removed_removeStale hremove
  have hbefore : ∀ id d, p'.templateData.lookup id = some d →
      p.templateData.lookup id = some d := by
    intro id d hd
    rw [hlookup] at hd
    split at hd
    · cases hd
    · exact hd
  refine ⟨⟨fun id d hd => h.idsBelow.own id d (hbefore id d hd), fun id d hd => ?_⟩, ?_, ?_, ?_,
    fun data hdata => ?_, h.mempool, fun id d hd => h.tip id d (hbefore id d hd),
    fun task' htask' => ?_⟩
  · rw [hfactory]
    exact h.idsBelow.below id d (hbefore id d hd)
  · rw [hfactory]
    exact h.templateIdFactory
  · rw [hout]
    exact h.outgoingMessages
  · rw [hprev]
    exact h.currentPrevHash
  · obtain ⟨hid, hknown⟩ := h.pending data hdata
    refine ⟨hid, ?_⟩
    rw [hlookup, if_neg, hknown]
    intro hmem
    rcases h.staleTasks task (List.mem_of_getElem? htask) with hold | ⟨_, -, -, hle⟩
    · have hlt := hold _ hmem
      omega
    · have hlt := hle _ hmem
      omega
  · rw [htasks] at htask'
    exact h.staleTasks task' (List.mem_of_mem_eraseIdx htask')

/-- The manager has handled a template of the tip. -/
theorem mempoolHandled (h : Publishes e p) (hstage : e.stage = .mempool data) :
    Publishes ⟨e.tip, e.latest + 1, e.prevHash, .settled⟩ { p with outgoingMessages := [] } := by
  obtain ⟨hid, hknown⟩ := h.pending data (by rw [hstage]; rfl)
  refine ⟨⟨h.idsBelow.own, h.idsBelow.below⟩, ?_, rfl, ?_, nofun, nofun, h.tip,
    fun task htask => .inl ?_⟩
  · rw [← hid]
    exact h.templateIdFactory.trans (by rw [hstage]; rfl)
  · exact h.currentPrevHash.trans (by rw [hstage]; rfl)
  · rcases h.staleTasks task htask with hold | ⟨_, hnew, -⟩
    · exact hold
    · rw [hstage] at hnew
      cases hnew

/-- The manager has handled the template of a new tip. -/
theorem tipHandled (h : Publishes e p) (hstage : e.stage = .tip data) :
    Publishes { e with stage := .prevHash data } { p with
      outgoingMessages := [.setNewPrevHash data.getSetNewPrevHashMessage] } := by
  refine ⟨⟨h.idsBelow.own, h.idsBelow.below⟩, ?_, rfl, ?_, fun d hd => ?_, nofun, h.tip,
    fun task htask => ?_⟩
  · exact h.templateIdFactory.trans (by rw [hstage]; rfl)
  · exact h.currentPrevHash.trans (by rw [hstage]; rfl)
  · exact h.pending d (by rw [hstage]; exact hd)
  · refine (h.staleTasks task htask).imp_right fun hnew => ?_
    rw [hstage] at hnew
    exact hnew

/-- The manager has handled the previous hash of a new tip. -/
theorem prevHashHandled (h : Publishes e p) (hstage : e.stage = .prevHash data)
    (htip : e.tip ≤ e.latest) :
    Publishes ⟨data.templateId.toNat, data.templateId.toNat, data.prevHash, .settled⟩
      { p with outgoingMessages := [] } := by
  obtain ⟨hid, hknown⟩ := h.pending data (by rw [hstage]; rfl)
  refine ⟨⟨h.idsBelow.own, h.idsBelow.below⟩, ?_, rfl, ?_, nofun, nofun, fun id d hd hidtip => ?_,
    fun task htask => .inl fun id hmem => ?_⟩
  · exact h.templateIdFactory.trans (by rw [hstage]; rfl)
  · exact h.currentPrevHash.trans (by rw [hstage]; rfl)
  · have heq : id = data.templateId := UInt64.toNat_inj.1 hidtip
    subst heq
    exact congrArg TemplateData.prevHash (Option.some.inj (hd.symm.trans hknown))
  · rcases h.staleTasks task htask with hold | ⟨_, -, -, hle⟩
    · have hlt := hold id hmem
      show id.toNat < data.templateId.toNat
      omega
    · have hlt := hle id hmem
      show id.toNat < data.templateId.toNat
      omega

end Publishes

end CanaryMining
