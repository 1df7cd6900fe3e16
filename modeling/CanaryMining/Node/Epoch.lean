import CanaryMining.Node.System

/-!
# What the pool works on between two tip changes

Between two tip changes the publisher numbers its templates one after the other,
and the manager has handled all of them but the last.  How far it is with the
last one decides what both know.

## Main definitions

* `Stage` — how far the manager is with the last template.
* `Epoch` — the tip, the last template handled and the stage.
* `ChannelFollows` — what a channel works on in an epoch.
* `PoolFollows` — what the whole pool works on.

**Main results:** `PoolFollows.mempool`, `PoolFollows.tip`, `PoolFollows.prevHash`.
-/

namespace CanaryMining

/-- How far the manager is with the last template. -/
inductive Stage
  /-- It has handled it. -/
  | settled
  /-- It is a template of the tip, not handled yet. -/
  | mempool (data : TemplateData)
  /-- It is the template of a new tip, not handled yet. -/
  | tip (data : TemplateData)
  /-- It is the template of a new tip, whose previous hash is not handled yet. -/
  | prevHash (data : TemplateData)

namespace Stage

/-- The messages the manager has not handled. -/
def outgoingMessages : Stage → List TemplateMessage
  | settled => []
  | mempool data => data.messages false false
  | tip data => data.messages true true
  | prevHash data => [.setNewPrevHash data.getSetNewPrevHashMessage]

/-- The template that is not handled to the end. -/
def pending : Stage → Option TemplateData
  | settled => none
  | mempool data => some data
  | tip data => some data
  | prevHash data => some data

/-- The template of a new tip. -/
def newTip : Stage → Option TemplateData
  | settled => none
  | mempool _ => none
  | tip data => some data
  | prevHash data => some data

/-- The template whose future jobs every channel has. -/
def awaited : Stage → Option TemplateData
  | settled => none
  | mempool _ => none
  | tip _ => none
  | prevHash data => some data

end Stage

/-- The template of the tip, the last template handled, and the previous hash. -/
structure Epoch where
  tip : ℕ
  latest : ℕ
  prevHash : BitVec 256
  stage : Stage

section

variable {F : Type} {X : ChannelsSv2 F} {Addr : Type} {e : Epoch}

/-- A channel's next job is one of its own, or the first after a tip change, or it has the
active job of its group. -/
inductive Linked (downstream : Downstream X) {kind : MinerChannelKind} (c : X.Channel kind) : Prop
  | own : kind = .standard → downstream.requiresStandardJobs = true → Linked downstream c
  | first : (X.jobStore c).pastOrder = [] → Linked downstream c
  | group (job : X.Job kind) (groupJob : X.Job .extended) :
      (X.jobStore c).activeJob = some job →
      (X.groupJobStore downstream.downstreamData.groupChannel).activeJob = some groupJob →
      Job.getJobId job = Job.getJobId groupJob → Linked downstream c

/-- **What a channel works on.**  With custom work it has no job of a template. -/
structure ChannelFollows (e : Epoch) (downstream : Downstream X) {kind : MinerChannelKind}
    (c : X.Channel kind) : Prop where
  custom : downstream.requiresCustomWork = true → ∀ job, ¬ (X.jobStore c).Accepts job
  follows : downstream.requiresCustomWork = false →
    BoundedJobStore.Follows e.tip e.latest (X.jobStore c)
  linked : downstream.requiresCustomWork = false → Linked downstream c
  awaits : downstream.requiresCustomWork = false → ∀ data, e.stage.awaited = some data →
    (X.jobStore c).Awaits data.templateId

/-- All channels of a connection do. -/
def DownstreamFollows (e : Epoch) (downstream : Downstream X) : Prop :=
  ∀ kind id c, (downstream.downstreamData.channels kind).lookup id = some c →
    ChannelFollows e downstream c

/-- **What the pool works on.** -/
structure PoolFollows (e : Epoch) (s : ManagerState X) : Prop where
  tip_le : e.tip ≤ e.latest
  lastNewPrevHash : ∃ message, s.data.lastNewPrevHash = some message ∧
    message.templateId.toNat = e.tip
  lastFutureTemplate : ∃ template, s.data.lastFutureTemplate = some template ∧
    template.futureTemplate = true ∧
    template.templateId.toNat = (e.stage.awaited.map fun data => data.templateId.toNat).getD e.tip
  downstream : ∀ d downstream, s.downstream? d = some downstream → DownstreamFollows e downstream

/-! ## What is accepted -/

variable {s s' : ManagerState X} {d : DownstreamId}

theorem PoolFollows.channel (h : PoolFollows e s) {kind : MinerChannelKind} {id : ChannelId}
    {c : X.Channel kind} (hc : s.channel? d kind id = some c) :
    ∃ downstream, s.downstream? d = some downstream ∧ ChannelFollows e downstream c := by
  obtain ⟨downstream, hd, hlookup⟩ := (ManagerState.channel?_eq_some _ _ _ _).1 hc
  exact ⟨downstream, hd, h.downstream d downstream hd kind id c hlookup⟩

/-- A publish is nothing to the pool. -/
theorem PoolFollows.of_stage (h : PoolFollows e s) (hawaited : e.stage.awaited = none)
    {stage : Stage} (hstage : stage.awaited = none) : PoolFollows { e with stage := stage } s := by
  obtain ⟨template, htemplate, hfuture, hid⟩ := h.lastFutureTemplate
  rw [hawaited] at hid
  refine ⟨h.tip_le, h.lastNewPrevHash, ⟨template, htemplate, hfuture, ?_⟩,
    fun d downstream hd kind id c hc => ?_⟩
  · rw [hid, hstage]
  · have hchannel := h.downstream d downstream hd kind id c hc
    refine ⟨hchannel.custom, hchannel.follows, hchannel.linked, fun _ data hdata => ?_⟩
    rw [hstage] at hdata
    cases hdata

/-- The templates in use are that of the tip and the last three. -/
theorem PoolFollows.templateInUse (h : PoolFollows e s) {templateId : ℕ}
    (huse : s.TemplateInUse templateId) :
    e.tip ≤ templateId ∧ templateId ≤ e.latest ∧
      (templateId = e.tip ∨ e.latest ≤ templateId + 2) := by
  obtain ⟨d, kind, id, c, job, hc, hjob, htemplate⟩ := huse
  obtain ⟨downstream, -, hchannel⟩ := h.channel hc
  cases hcustom : downstream.requiresCustomWork with
  | true => exact absurd hjob (hchannel.custom hcustom job)
  | false =>
    obtain ⟨i, hi, hle, hlatest⟩ := (hchannel.follows hcustom).accepts h.tip_le hjob
    have heq : i = templateId := Option.some.inj (hi.symm.trans htemplate)
    subst heq
    exact ⟨hle, hlatest⟩

/-- A job of a channel that was given a template, or of the one before. -/
theorem templateInUse_of_each {change : Downstream X → Downstream X → Prop} (new : Option ℕ)
    (heach : EachDownstream change s s')
    (habsent : ∀ before after, change before after → ∀ kind id,
      (before.downstreamData.channels kind).lookup id = none →
        (after.downstreamData.channels kind).lookup id = none)
    (hchange : ∀ before after, change before after → ∀ kind id (c c' : X.Channel kind),
      s.downstream? d = some before → before.requiresCustomWork = false →
      (before.downstreamData.channels kind).lookup id = some c →
      (after.downstreamData.channels kind).lookup id = some c' →
      ∀ job, (X.jobStore c').Accepts job → (X.jobStore c).Accepts job ∨ templateId? job = new)
    {kind : MinerChannelKind} {id : ChannelId} {c' : X.Channel kind} {job : X.Job kind}
    {templateId : ℕ} (hc' : s'.channel? d kind id = some c') (hjob : (X.jobStore c').Accepts job)
    (htemplate : templateId? job = some templateId) :
    s.TemplateInUse templateId ∨ new = some templateId := by
  rcases heach.channel_before habsent hc' with
    hold | ⟨before, after, c, hbefore, hcustom, -, hstep, hc, hafter⟩
  · exact .inl ⟨d, kind, id, c', job, hold, hjob, htemplate⟩
  · have hcases := hchange before after hstep kind id c c' hbefore hcustom hc hafter job hjob
    rcases hcases with haccepts | hnew
    · left
      refine ⟨d, kind, id, c, job, ?_, haccepts, htemplate⟩
      exact (ManagerState.channel?_eq_some _ _ _ _).2 ⟨before, hbefore, hc⟩
    · exact .inr (hnew.symm.trans htemplate)

/-! ## The messages of the publisher -/

theorem ChannelFollows.of_custom {downstream : Downstream X} {kind : MinerChannelKind}
    {c : X.Channel kind} (h : ChannelFollows e downstream c)
    (hcustom : downstream.requiresCustomWork = true) (e' : Epoch) :
    ChannelFollows e' downstream c := by
  have hne : downstream.requiresCustomWork ≠ false := by simp [hcustom]
  exact ⟨h.custom, fun h => absurd h hne, fun h => absurd h hne, fun h => absurd h hne⟩

/-- A message of the publisher changes the connections without custom work. -/
theorem downstreamFollows_of_each {e' : Epoch} {change : Downstream X → Downstream X → Prop}
    (heach : EachDownstream change s s')
    (hchange : ∀ before after, change before after → before.requiresCustomWork = false →
      DownstreamFollows e before → DownstreamFollows e' after)
    (h : ∀ d downstream, s.downstream? d = some downstream → DownstreamFollows e downstream)
    {downstream' : Downstream X} (hd' : s'.downstream? d = some downstream') :
    DownstreamFollows e' downstream' := by
  cases hd : s.downstream? d with
  | none =>
    rw [heach.absent d hd] at hd'
    cases hd'
  | some downstream =>
    have hbefore := h d downstream hd
    obtain ⟨after, hafter, hturn⟩ := heach.present d downstream hd
    rw [hd', Option.some.injEq] at hafter
    subst hafter
    cases hcustom : downstream.requiresCustomWork with
    | true =>
      rw [if_pos hcustom] at hturn
      subst hturn
      exact fun kind id c hc => (hbefore kind id c hc).of_custom hcustom e'
    | false =>
      rw [if_neg (by simp [hcustom])] at hturn
      exact hchange downstream downstream' hturn hcustom hbefore

section Given

variable {template : NewTemplate} {outputs : List TxOut} {before after : Downstream X}
  {message : SetNewPrevHash} {data : TemplateData}

/-- A template of the tip gives a channel a new active job, whose id is not the old one's
unless there are no past jobs. -/
theorem TemplateGiven.activeJob (hX : X.Laws) (hfresh : X.FreshJobIds)
    (hgiven : TemplateGiven template outputs before after)
    (hfuture : template.futureTemplate = false) {kind : MinerChannelKind} {id : ChannelId}
    {c : X.Channel kind} (hc : (before.downstreamData.channels kind).lookup id = some c)
    (hlinked : Linked before c) :
    ∃ c' job, (after.downstreamData.channels kind).lookup id = some c' ∧
      IsJobOf template outputs job ∧ X.jobStore c' = (X.jobStore c).addActiveJob job ∧
      Linked after c' ∧ ∀ active, (X.jobStore c).activeJob = some active →
        Job.getJobId job ≠ Job.getJobId active ∨ (X.jobStore c).pastOrder = [] := by
  obtain ⟨groupJob, hof, hgroup, htemplate, hchannel⟩ := hgiven.channel
  have hgroupActive :
      (X.groupJobStore after.downstreamData.groupChannel).activeJob = some groupJob := by
    simpa [BoundedJobStore.templateJob, hfuture, BoundedJobStore.getActiveJob] using htemplate
  obtain ⟨c', hc', hstep⟩ := hchannel kind id c hc
  by_cases hown : kind = .standard ∧ before.requiresStandardJobs = true
  · rw [if_pos hown] at hstep
    obtain ⟨-, job, hjob, hstore⟩ := hX.onNewTemplate _ _ _ _ _ hstep
    have hadded := hstore.trans (BoundedJobStore.addTemplateJob_of_not_future hfuture)
    have hactive : (X.jobStore c').activeJob = some job := by
      rw [hadded]
      rfl
    refine ⟨c', job, hc', hjob, hadded, ?_, fun active hold => .inl ?_⟩
    · exact .own hown.1 (hgiven.requiresStandardJobs.trans hown.2)
    · exact hfresh.onNewTemplate _ _ _ _ _ hfuture hstep active job hold hactive
  · rw [if_neg hown] at hstep
    obtain ⟨-, job, hjob, hsame, hstore⟩ := hX.onGroupChannelJob _ _ _ _ _ _ hstep hof
    have hadded := hstore.trans (BoundedJobStore.addTemplateJob_of_not_future hfuture)
    have hactive : (X.jobStore c').activeJob = some job := by
      rw [hadded]
      rfl
    refine ⟨c', job, hc', hjob, hadded, .group job groupJob hactive hgroupActive hsame,
      fun active hold => ?_⟩
    cases hlinked with
    | own hkind hstd => exact absurd ⟨hkind, hstd⟩ hown
    | first hnil => exact .inr hnil
    | group job₀ groupJob₀ hjob₀ hgroupJob₀ heq =>
      -- The id is new in the group, whose active job has the channel's id.
      left
      rw [hold, Option.some.injEq] at hjob₀
      subst hjob₀
      rw [hsame, heq]
      exact hfresh.groupOnNewTemplate _ _ _ _ hfuture hgroup groupJob₀ groupJob hgroupJob₀
        hgroupActive

/-- **A template of the tip** becomes the active job. -/
theorem DownstreamFollows.mempool (hX : X.Laws) (hfresh : X.FreshJobIds)
    (hgiven : TemplateGiven template outputs before after)
    (hfuture : template.futureTemplate = false)
    (hid : template.templateId.toNat = e.latest + 1) (htip : e.tip ≤ e.latest)
    (hcustom : before.requiresCustomWork = false) (h : DownstreamFollows e before) :
    DownstreamFollows ⟨e.tip, e.latest + 1, e.prevHash, .settled⟩ after := by
  have hcustom' : after.requiresCustomWork = false := hgiven.requiresCustomWork.trans hcustom
  intro kind id c' hc'
  cases hc : (before.downstreamData.channels kind).lookup id with
  | none =>
    rw [hgiven.absent kind id hc] at hc'
    cases hc'
  | some c =>
    have hbefore := h kind id c hc
    obtain ⟨c'', job, hc'', hjob, hadded, hlinked, hnew⟩ :=
      hgiven.activeJob hX hfresh hfuture hc (hbefore.linked hcustom)
    rw [hc', Option.some.injEq] at hc''
    subst hc''
    refine ⟨fun htrue => ?_, fun _ => ?_, fun _ => hlinked, fun _ _ hnone => nomatch hnone⟩
    · rw [hcustom'] at htrue
      cases htrue
    · rw [hadded]
      exact (hbefore.follows hcustom).addActiveJob htip (hid ▸ hjob.templateId?) hnew

/-- **The template of a new tip** becomes a future job. -/
theorem DownstreamFollows.tip (hX : X.Laws)
    (hgiven : TemplateGiven template outputs before after)
    (hfuture : template.futureTemplate = true) (hid : template.templateId = data.templateId)
    (hcustom : before.requiresCustomWork = false) (h : DownstreamFollows e before) :
    DownstreamFollows { e with stage := .prevHash data } after := by
  have hcustom' : after.requiresCustomWork = false := hgiven.requiresCustomWork.trans hcustom
  obtain ⟨-, -, hgroup, -, -⟩ := hgiven.channel
  have hgroupActive : (X.groupJobStore after.downstreamData.groupChannel).activeJob =
      (X.groupJobStore before.downstreamData.groupChannel).activeJob := by
    obtain ⟨groupJob, -, hstore⟩ := hX.groupOnNewTemplate _ _ _ _ hgroup
    rw [hstore, BoundedJobStore.addTemplateJob_of_future hfuture]
    rfl
  intro kind id c' hc'
  cases hc : (before.downstreamData.channels kind).lookup id with
  | none =>
    rw [hgiven.absent kind id hc] at hc'
    cases hc'
  | some c =>
    obtain ⟨c'', job, hc'', hjob, -, hstore⟩ := hgiven.jobAdded hX hc
    rw [hc', Option.some.injEq] at hc''
    subst hc''
    have hbefore := h kind id c hc
    have hadded : X.jobStore c' = (X.jobStore c).addFutureJob template.templateId job :=
      hstore.trans (BoundedJobStore.addTemplateJob_of_future hfuture)
    refine ⟨fun htrue => ?_, fun _ => ?_, fun _ => ?_, fun _ data' hdata' => ?_⟩
    · rw [hcustom'] at htrue
      cases htrue
    · rw [hadded]
      exact (hbefore.follows hcustom).addFutureJob
    · cases hbefore.linked hcustom with
      | own hkind hstd => exact .own hkind (hgiven.requiresStandardJobs.trans hstd)
      | first hnil => exact .first (by rw [hadded]; exact hnil)
      | group job₀ groupJob₀ hjob₀ hgroupJob₀ heq =>
        exact .group job₀ groupJob₀ (by rw [hadded]; exact hjob₀)
          (hgroupActive.trans hgroupJob₀) heq
    · cases hdata'
      rw [hadded, hid]
      exact BoundedJobStore.awaits_addFutureJob _ (hid ▸ hjob.templateId?)

/-- **The previous hash of a new tip** leaves its job alone. -/
theorem DownstreamFollows.prevHash (hX : X.Laws) (hset : PrevHashSet message before after)
    (hawaited : e.stage.awaited = some data) (hid : message.templateId = data.templateId)
    (hcustom : before.requiresCustomWork = false) (h : DownstreamFollows e before) :
    DownstreamFollows ⟨data.templateId.toNat, data.templateId.toNat, data.prevHash, .settled⟩
      after := by
  have hcustom' : after.requiresCustomWork = false := hset.requiresCustomWork.trans hcustom
  intro kind id c' hc'
  cases hc : (before.downstreamData.channels kind).lookup id with
  | none =>
    rw [hset.absent kind id hc] at hc'
    cases hc'
  | some c =>
    obtain ⟨c'', hc'', hc₁⟩ := hset.channel kind id c hc
    rw [hc', Option.some.injEq] at hc''
    subst hc''
    have hawaits := (h kind id c hc).awaits hcustom data hawaited
    rw [← hid] at hawaits
    have hsets := hawaits.setsNewPrevHash (fun job t => (hX.activate kind job t).1)
      (hX.onSetNewPrevHash _ _ _ _ hc₁).2 data.templateId.toNat
    rw [hid] at hsets
    refine ⟨fun htrue => ?_, fun _ => hsets.1, fun _ => .first hsets.2,
      fun _ _ hnone => nomatch hnone⟩
    rw [hcustom'] at htrue
    cases htrue

end Given

section Pool

variable {cfg : ManagerConfig F} {outcome : Outcome X} {data : TemplateData}

theorem PoolFollows.mempool (hX : X.Laws) (hfresh : X.FreshJobIds) (h : PoolFollows e s)
    (hawaited : e.stage.awaited = none) (hid : data.templateId.toNat = e.latest + 1)
    (hhandled : NewTemplateHandled cfg (data.getNewTemplateMessage false) s outcome)
    (hstate : outcome.state? = some s') :
    PoolFollows ⟨e.tip, e.latest + 1, e.prevHash, .settled⟩ s' ∧
      ∀ i, s'.TemplateInUse i → s.TemplateInUse i ∨ i = e.latest + 1 := by
  have heach := hhandled.each s' hstate
  refine ⟨⟨Nat.le_succ_of_le h.tip_le, ?_, ?_, fun d downstream' hd' => ?_⟩, fun i huse => ?_⟩
  · rw [hhandled.lastNewPrevHash s' hstate]
    exact h.lastNewPrevHash
  · obtain ⟨template, htemplate, hfuture, htip⟩ := h.lastFutureTemplate
    rw [hawaited] at htip
    exact ⟨template, (hhandled.lastFutureTemplate s' hstate).trans htemplate, hfuture, htip⟩
  · exact downstreamFollows_of_each heach (fun before after hgiven hcustom hbefore =>
      hbefore.mempool hX hfresh hgiven rfl hid h.tip_le hcustom) h.downstream hd'
  · obtain ⟨d, kind, id, c', job, hc', hjob, htemplate⟩ := huse
    have hcases := templateInUse_of_each (some (e.latest + 1)) heach
      (fun _ _ hgiven => hgiven.absent)
      (fun before after hgiven kind id c c' _ _ hc hc' job hjob => ?_) hc' hjob htemplate
    · exact hcases.imp_right fun hsome => (Option.some.inj hsome).symm
    · obtain ⟨c'', new, hc'', hnew, -, hstore⟩ := hgiven.jobAdded hX hc
      rw [hc', Option.some.injEq] at hc''
      subst hc''
      rw [hstore, BoundedJobStore.addTemplateJob_of_not_future rfl] at hjob
      rcases hjob.of_addActiveJob with rfl | hold
      · right
        rw [← hid]
        exact hnew.templateId?
      · exact .inl hold

theorem PoolFollows.tip (hX : X.Laws) (h : PoolFollows e s)
    (hhandled : NewTemplateHandled cfg (data.getNewTemplateMessage true) s outcome)
    (hstate : outcome.state? = some s') :
    PoolFollows { e with stage := .prevHash data } s' ∧
      ∀ i, s'.TemplateInUse i → s.TemplateInUse i := by
  have heach := hhandled.each s' hstate
  refine ⟨⟨h.tip_le, ?_, ?_, fun d downstream' hd' => ?_⟩, fun i huse => ?_⟩
  · rw [hhandled.lastNewPrevHash s' hstate]
    exact h.lastNewPrevHash
  · exact ⟨_, hhandled.lastFutureTemplate s' hstate, rfl, rfl⟩
  · exact downstreamFollows_of_each heach (fun before after hgiven hcustom hbefore =>
      hbefore.tip hX hgiven rfl rfl hcustom) h.downstream hd'
  · obtain ⟨d, kind, id, c', job, hc', hjob, htemplate⟩ := huse
    have hcases := templateInUse_of_each none heach (fun _ _ hgiven => hgiven.absent)
      (fun before after hgiven kind id c c' _ _ hc hc' job hjob => ?_) hc' hjob htemplate
    · exact hcases.resolve_right nofun
    · obtain ⟨c'', new, hc'', -, -, hstore⟩ := hgiven.jobAdded hX hc
      rw [hc', Option.some.injEq] at hc''
      subst hc''
      rw [hstore, BoundedJobStore.addTemplateJob_of_future rfl] at hjob
      exact .inl hjob.of_addFutureJob

theorem PoolFollows.prevHash (hX : X.Laws) (h : PoolFollows e s)
    (hawaited : e.stage.awaited = some data)
    (hhandled : NewPrevHashHandled data.getSetNewPrevHashMessage s outcome)
    (hstate : outcome.state? = some s') :
    PoolFollows ⟨data.templateId.toNat, data.templateId.toNat, data.prevHash, .settled⟩ s' ∧
      ∀ i, s'.TemplateInUse i → i = data.templateId.toNat := by
  have heach := hhandled.each s' hstate
  have hfollows : PoolFollows
      ⟨data.templateId.toNat, data.templateId.toNat, data.prevHash, .settled⟩ s' := by
    refine ⟨le_refl _, ?_, ?_, fun d downstream' hd' => ?_⟩
    · exact ⟨_, hhandled.lastNewPrevHash s' hstate, rfl⟩
    · obtain ⟨template, htemplate, hfuture, htip⟩ := h.lastFutureTemplate
      rw [hawaited] at htip
      exact ⟨template, (hhandled.lastFutureTemplate s' hstate).trans htemplate, hfuture, htip⟩
    · exact downstreamFollows_of_each heach (fun before after hset hcustom hbefore =>
        hbefore.prevHash hX hset hawaited rfl hcustom) h.downstream hd'
  refine ⟨hfollows, fun i huse => ?_⟩
  -- The window of the new epoch is the tip alone.
  obtain ⟨hle, hle', -⟩ := hfollows.templateInUse huse
  exact le_antisymm hle' hle

end Pool

end

end CanaryMining
