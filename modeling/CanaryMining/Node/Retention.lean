import CanaryMining.Node.Publishing

/-!
# Retained templates

A run in which no step forgets a template in use keeps the template of every
job the pool accepts.  The other way a block is lost: the publisher keeps the
last 256 templates of a tip, but a new channel starts with the first.

## Main definitions

* `Node.Retains` — the invariant of both programs.

**Main result:** `Node.jobsRetained_of_keepsTemplates`, over whole runs.
-/

namespace CanaryMining

open TemplatePublisher

section Pool

variable {F : Type} {X : ChannelsSv2 F} {Addr : Type} {e : Epoch} {cfg : ManagerConfig F}
  {lib : AddressLib Addr} {d : DownstreamId}

/-! ## Opening a channel -/

section Opening

variable {s s' : ManagerState X} {before after : Downstream X} {mode : PayoutMode}
  {kind : MinerChannelKind} {c c' : X.Channel kind} {opens : Prop}

theorem ChannelFollows.of_sameSettings (h : ChannelFollows e before c)
    (hsame : SameSettings before after) (hstore : X.jobStore c' = X.jobStore c) :
    ChannelFollows e after c' := by
  have hcustom := hsame.requiresCustomWork
  refine ⟨fun ha => ?_, fun ha => ?_, fun ha => ?_, fun ha => ?_⟩
  · rw [hstore]
    exact h.custom (hcustom.symm.trans ha)
  · rw [hstore]
    exact h.follows (hcustom.symm.trans ha)
  · cases h.linked (hcustom.symm.trans ha) with
    | own hkind hstd => exact .own hkind (hsame.requiresStandardJobs.trans hstd)
    | first hnil => exact .first (by rw [hstore, hnil])
    | group job groupJob hjob hgroup heq =>
      exact .group job groupJob (by rw [hstore, hjob]) (by rw [hsame.groupJobStore, hgroup]) heq
  · rw [hstore]
    exact h.awaits (hcustom.symm.trans ha)

/-- **A new channel** starts with the template of the tip.  Between the template of a new
tip and its previous hash none is opened. -/
theorem PoolFollows.startedWith (hX : X.Laws) (h : PoolFollows e s)
    (hnew : ∀ data, e.stage.awaited = some data → e.tip < data.templateId.toNat)
    (hd : s.downstream? d = some before) (hstarted : StartedWith cfg d s mode c) :
    ChannelFollows e before c ∧
      ∀ job i, (X.jobStore c).Accepts job → templateId? job = some i →
        i = e.tip ∧ e.stage.awaited = none ∧ before.requiresCustomWork = false := by
  cases hstarted with
  | noJob downstream prev hd' hcustom hsets =>
    have heq : downstream = before := Option.some.inj (hd'.symm.trans hd)
    subst heq
    have hnone : ∀ job, ¬ (X.jobStore c).Accepts job :=
      fun job => BoundedJobStore.not_accepts_of_new hsets
    refine ⟨⟨fun _ => hnone, fun ha => ?_, fun ha => ?_, fun ha => ?_⟩,
      fun job _ hjob _ => absurd hjob (hnone job)⟩
    · rw [hcustom] at ha
      cases ha
    · rw [hcustom] at ha
      cases ha
    · rw [hcustom] at ha
      cases ha
  | job downstream template prev job hd' hcustom htemplate hprev hof hsets =>
    have heq : downstream = before := Option.some.inj (hd'.symm.trans hd)
    subst heq
    obtain ⟨message, hmessage, htip⟩ := h.lastNewPrevHash
    obtain ⟨template', htemplate', hfuture, hid⟩ := h.lastFutureTemplate
    have hsame : template' = template := Option.some.inj (htemplate'.symm.trans htemplate)
    have hsame' : message = prev := Option.some.inj (hmessage.symm.trans hprev)
    subst hsame hsame'
    rw [BoundedJobStore.addTemplateJob_of_future hfuture] at hsets
    have hawaits := BoundedJobStore.awaits_addFutureJob BoundedJobStore.new hof.templateId?
    cases hawaited : e.stage.awaited with
    | some data =>
      -- The previous hash of the tip does not fit the template of the new one.
      rw [hawaited] at hid
      have hlt := hnew data hawaited
      have hne : message.templateId ≠ template'.templateId := by
        intro heq
        rw [heq] at htip
        exact absurd (hid.symm.trans htip) (Nat.ne_of_gt hlt)
      exact absurd hsets
        (hawaits.not_setsNewPrevHash (BoundedJobStore.lookup_new_addFutureJob hne job))
    | none =>
      rw [hawaited] at hid
      have heq : message.templateId = template'.templateId :=
        UInt64.toNat_inj.1 (htip.trans hid.symm)
      rw [← heq] at hawaits hsets
      have hfollows := hawaits.setsNewPrevHash (fun job t => (hX.activate kind job t).1) hsets
      rw [htip] at hfollows
      refine ⟨⟨fun ha => ?_, fun _ => (hfollows e.latest).1, fun _ => .first (hfollows e.latest).2,
        fun _ data hdata => ?_⟩, fun job' i hjob' hi => ?_⟩
      · rw [hcustom] at ha
        cases ha
      · rw [hawaited] at hdata
        cases hdata
      · obtain ⟨i', hi', hle, hle', -⟩ := (hfollows e.tip).1.accepts (le_refl _) hjob'
        have hii : i' = i := Option.some.inj (hi'.symm.trans hi)
        subst hii
        exact ⟨le_antisymm hle' hle, rfl, hcustom⟩

/-- Handling a mining message only puts the template of the tip to use. -/
theorem PoolFollows.changes [Double F] (hX : X.Laws) (h : PoolFollows e s)
    (hnew : ∀ data, e.stage.awaited = some data → e.tip < data.templateId.toNat)
    (hchanges : Changes cfg lib d opens s s') : PoolFollows e s' ∧
      ∀ i, s'.TemplateInUse i → s.TemplateInUse i ∨ i = e.tip ∧ e.stage.awaited = none ∧
        opens ∧ ∃ downstream, s.downstream? d = some downstream ∧
          downstream.requiresCustomWork = false := by
  obtain ⟨htemplates, hprevs⟩ := hchanges.templates
  refine ⟨⟨h.tip_le, ?_, ?_, fun d' after hafter kind id c hc => ?_⟩, fun i huse => ?_⟩
  · rw [hprevs]
    exact h.lastNewPrevHash
  · rw [htemplates]
    exact h.lastFutureTemplate
  · obtain ⟨before, hbefore, hsame, -⟩ := hchanges.downstream_before hafter
    have hchannel := (ManagerState.channel?_eq_some _ _ _ _).2 ⟨after, hafter, hc⟩
    rcases hchanges.channel_after hchannel with
      ⟨c₀, hc₀, hstore⟩ | ⟨rfl, -, mode, c₀, hstarted, hstore⟩
    · obtain ⟨before', hbefore', hfollows⟩ := h.channel hc₀
      have heq : before' = before := Option.some.inj (hbefore'.symm.trans hbefore)
      subst heq
      exact hfollows.of_sameSettings hsame hstore
    · exact (h.startedWith hX hnew hbefore hstarted).1.of_sameSettings hsame hstore
  · obtain ⟨d', kind, id, c, job, hc, hjob, htemplate⟩ := huse
    rcases hchanges.channel_after hc with
      ⟨c₀, hc₀, hstore⟩ | ⟨rfl, hopens, mode, c₀, hstarted, hstore⟩
    · rw [hstore] at hjob
      exact .inl ⟨d', kind, id, c₀, job, hc₀, hjob, htemplate⟩
    · rw [hstore] at hjob
      obtain ⟨after, hafter, -⟩ := (ManagerState.channel?_eq_some _ _ _ _).1 hc
      obtain ⟨before, hbefore, -, -⟩ := hchanges.downstream_before hafter
      obtain ⟨htip, hawaited, hcustom⟩ :=
        (h.startedWith hX hnew hbefore hstarted).2 job i hjob htemplate
      exact .inr ⟨htip, hawaited, hopens, before, hbefore, hcustom⟩

end Opening

/-- The tasks of the connections put no template to use. -/
theorem PoolFollows.bookkeeping {s s' : Server X} (h : PoolFollows e s.manager)
    (hidle : s.SetupIdle) (hbook : Server.Bookkeeping cfg s s') : PoolFollows e s'.manager ∧
      ∀ i, s'.manager.TemplateInUse i → s.manager.TemplateInUse i := by
  refine ⟨⟨h.tip_le, ?_, ?_, fun d downstream' hd' kind id c hc => ?_⟩, fun i huse => ?_⟩
  · rw [hbook.lastNewPrevHash]
    exact h.lastNewPrevHash
  · rw [hbook.lastFutureTemplate]
    exact h.lastFutureTemplate
  · rcases hbook.downstream d downstream' hd' with
      ⟨downstream, hd, hdata, hset | rfl⟩ | ⟨group, -, rfl⟩
    · -- The flags of a connection without channels are stored.
      have hnone := (hidle d hset).1 kind id
      rw [hdata] at hc
      rw [(ManagerState.channel?_eq_some _ _ _ _).2 ⟨downstream, hd, hc⟩] at hnone
      cases hnone
    · exact h.downstream d _ hd kind id c hc
    · cases kind <;> cases hc
  · obtain ⟨d, kind, id, c, job, hc, hjob, htemplate⟩ := huse
    exact ⟨d, kind, id, c, job, (hbook.channel_before hc).1, hjob, htemplate⟩

end Pool

/-! ## Both programs -/

namespace Node

variable {F : Type} {X : ChannelsSv2 F} {Addr : Type} {e : Epoch} {cfg : ManagerConfig F}
  {lib : AddressLib Addr} {s s' : Node X} {data : TemplateData}

/-- **The invariant**: both programs are in the same epoch, and the publisher has every
template in use. -/
structure Retains (e : Epoch) (s : Node X) : Prop where
  publisher : Publishes e s.publisher
  pool : PoolFollows e s.server.manager
  idsInOrder : s.server.IdsInOrder
  setupIdle : s.server.SetupIdle
  inUse : ∀ id : UInt64, s.TemplateInUse id.toNat →
    ∃ data, s.publisher.templateData.lookup id = some data ∧ data.prevHash = e.prevHash

/-- The template of a new tip is newer than the tip. -/
theorem Retains.awaited (h : Retains e s) (hawaited : e.stage.awaited = some data) :
    e.tip < data.templateId.toNat := by
  have hpending : e.stage.pending = some data := by
    cases hs : e.stage with
    | settled | mempool _ | tip _ =>
      rw [hs] at hawaited
      cases hawaited
    | prevHash data' =>
      rw [hs] at hawaited
      exact hawaited
  have hid := (h.publisher.pending data hpending).1
  have htip := h.pool.tip_le
  omega

theorem Retains.jobsRetained (h : Retains e s) : JobsRetained s := by
  intro d kind id c hc job hjob template horigin solution hsolution
  have htemplate : templateId? job = some template.templateId.toNat := by
    simp only [templateId?, horigin]
  obtain ⟨data, hdata, -⟩ := h.inUse template.templateId ⟨d, kind, id, c, job, hc, hjob, htemplate⟩
  rw [TemplatePublisher.handleSubmitSolution, hsolution, hdata]
  rfl

/-! ### Publishing -/

/-- **A publish keeps what is in use**: the template of the tip by the guard, the last three
by their numbers. -/
theorem Retains.mempoolPublished (h : Retains e s) {p' : TemplatePublisher}
    (hsettled : e.stage = .settled)
    (hwrap : s.publisher.templateIdFactory.toNat + 1 < 2 ^ 64)
    (hguard : s.TemplateInUse e.tip →
      s.publisher.templateIdFactory.toNat < e.tip + maxRetainedTemplatesPerPrevHash)
    (hpublished : MempoolPublished s.publisher p' data) :
    Retains { e with stage := .mempool data } { s with publisher := p' } := by
  have htip := h.pool.tip_le
  have hawaited : e.stage.awaited = none := by
    rw [hsettled]
    rfl
  refine ⟨h.publisher.mempoolPublished hsettled htip hwrap hpublished,
    h.pool.of_stage hawaited rfl, h.idsInOrder, h.setupIdle, fun id huse => ?_⟩
  · obtain ⟨old, hold, hprev⟩ := h.inUse id huse
    refine ⟨old, hpublished.kept id old hold (.inr ?_), hprev⟩
    have hfactory : s.publisher.templateIdFactory.toNat = e.latest + 1 := by
      rw [h.publisher.templateIdFactory, hsettled]
      rfl
    obtain ⟨-, -, htipid | hlast⟩ := h.pool.templateInUse huse
    · rw [htipid] at huse ⊢
      have hlt := hguard huse
      omega
    · rw [hfactory]
      unfold maxRetainedTemplatesPerPrevHash
      omega

/-- **A new tip** has another previous hash, so nothing of the old one is evicted. -/
theorem Retains.tipPublished (h : Retains e s) {p' : TemplatePublisher}
    (hsettled : e.stage = .settled)
    (hwrap : s.publisher.templateIdFactory.toNat + 1 < 2 ^ 64)
    (hpublished : TipPublished s.publisher p' data) :
    Retains { e with stage := .tip data } { s with publisher := p' } := by
  have hawaited : e.stage.awaited = none := by
    rw [hsettled]
    rfl
  refine ⟨h.publisher.tipPublished hsettled h.pool.tip_le hwrap hpublished,
    h.pool.of_stage hawaited rfl, h.idsInOrder, h.setupIdle, fun id huse => ?_⟩
  obtain ⟨old, hold, hprev⟩ := h.inUse id huse
  obtain ⟨current, hcurrent, hne⟩ := hpublished.prevHash
  have hsame : current = e.prevHash := by
    rw [h.publisher.currentPrevHash, hsettled] at hcurrent
    exact (Option.some.inj hcurrent).symm
  refine ⟨old, hpublished.kept id old hold (.inl ?_), hprev⟩
  rw [hprev, ← hsame]
  exact Ne.symm hne

/-- **A task that wakes up** forgets templates older than the tip, or no channel has a job. -/
theorem Retains.removed (h : Retains e s) {p' : TemplatePublisher} {k : ℕ}
    (hguard : ∀ task, s.publisher.staleTasks[k]? = some task → s.TipPending task →
      ∀ templateId, ¬ s.TemplateInUse templateId)
    (hremove : s.publisher.removeStale k = some p') :
    Retains e { s with publisher := p' } := by
  have htip := h.pool.tip_le
  refine ⟨h.publisher.removed htip hremove, h.pool, h.idsInOrder, h.setupIdle, fun id huse => ?_⟩
  obtain ⟨task, htask, -, -, -, -, hlookup⟩ := removed_removeStale hremove
  obtain ⟨old, hold, hprev⟩ := h.inUse id huse
  refine ⟨old, ?_, hprev⟩
  rw [hlookup, if_neg, hold]
  intro hmem
  rcases h.publisher.staleTasks task (List.mem_of_getElem? htask) with
    hstale | ⟨data, hnew, htask', -⟩
  · have hlt := hstale id hmem
    have hle := (h.pool.templateInUse huse).1
    omega
  · refine hguard task htask ⟨data.getSetNewPrevHashMessage, ?_, htask'.symm⟩ _ huse
    rw [h.publisher.outgoingMessages]
    cases hs : e.stage with
    | settled | mempool _ =>
      rw [hs] at hnew
      cases hnew
    | tip data' | prevHash data' =>
      rw [hs] at hnew
      cases hnew
      simp [Stage.outgoingMessages, TemplateData.messages]

/-! ### The manager handles a message -/

section Deliver

variable [Double F] {server : Server X} {orders : MapOrders}

theorem Retains.mempoolHandled (hX : X.Laws) (hfresh : X.FreshJobIds) (h : Retains e s)
    (hstage : e.stage = .mempool data)
    (hnext : s.server.next cfg lib (.newTemplate (data.getNewTemplateMessage false) orders) =
      some server) :
    Retains ⟨e.tip, e.latest + 1, e.prevHash, .settled⟩
      ⟨{ s.publisher with outgoingMessages := [] }, server⟩ := by
  obtain ⟨-, outcome, hhandled, hafter⟩ := Server.handled_newTemplate hX hnext
  obtain ⟨hid, hknown⟩ := h.publisher.pending data (by rw [hstage]; rfl)
  obtain ⟨hpool, huses⟩ :=
    h.pool.mempool hX hfresh (by rw [hstage]; rfl) hid hhandled hafter.state
  refine ⟨h.publisher.mempoolHandled hstage, hpool, h.idsInOrder.next hX hnext,
    h.setupIdle.next hX h.idsInOrder hnext, fun id huse => ?_⟩
  rcases huses id.toNat huse with hold | hnew
  · exact h.inUse id hold
  · have heq : id = data.templateId := UInt64.toNat_inj.1 (hnew.trans hid.symm)
    subst heq
    exact ⟨data, hknown, h.publisher.mempool data hstage⟩

theorem Retains.tipHandled (hX : X.Laws) (h : Retains e s) (hstage : e.stage = .tip data)
    (hnext : s.server.next cfg lib (.newTemplate (data.getNewTemplateMessage true) orders) =
      some server) :
    Retains { e with stage := .prevHash data } ⟨{ s.publisher with
      outgoingMessages := [.setNewPrevHash data.getSetNewPrevHashMessage] }, server⟩ := by
  obtain ⟨-, outcome, hhandled, hafter⟩ := Server.handled_newTemplate hX hnext
  obtain ⟨hpool, huses⟩ := h.pool.tip hX hhandled hafter.state
  exact ⟨h.publisher.tipHandled hstage, hpool, h.idsInOrder.next hX hnext,
    h.setupIdle.next hX h.idsInOrder hnext, fun id huse => h.inUse id (huses _ huse)⟩

theorem Retains.prevHashHandled (hX : X.Laws) (h : Retains e s)
    (hstage : e.stage = .prevHash data)
    (hnext : s.server.next cfg lib (.setNewPrevHash data.getSetNewPrevHashMessage orders) =
      some server) :
    Retains ⟨data.templateId.toNat, data.templateId.toNat, data.prevHash, .settled⟩
      ⟨{ s.publisher with outgoingMessages := [] }, server⟩ := by
  obtain ⟨-, outcome, hhandled, hafter⟩ := Server.handled_setNewPrevHash hnext
  obtain ⟨-, hknown⟩ := h.publisher.pending data (by rw [hstage]; rfl)
  obtain ⟨hpool, huses⟩ := h.pool.prevHash hX (by rw [hstage]; rfl) hhandled hafter.state
  refine ⟨h.publisher.prevHashHandled hstage h.pool.tip_le, hpool, h.idsInOrder.next hX hnext,
    h.setupIdle.next hX h.idsInOrder hnext, fun id huse => ?_⟩
  have heq : id = data.templateId := UInt64.toNat_inj.1 (huses id.toNat huse)
  subst heq
  exact ⟨data, hknown, rfl⟩

/-- **Any other step of the pool** puts no template to use but that of the tip, by a channel
it opens. -/
theorem Retains.of_server (hX : X.Laws) (h : Retains e s) {action : ServerAction X}
    (haction : action.isTemplate = false) (hnext : s.server.next cfg lib action = some server)
    (hguard : KeepsTemplates cfg lib s (.server action)) :
    Retains e { s with server := server } := by
  have hids := h.idsInOrder.next hX hnext
  have hidle := h.setupIdle.next hX h.idsInOrder hnext
  by_cases hhandler : action.isHandler = true
  · cases action with
    | handleMining now =>
      obtain ⟨-, d, message, queue, outcome, hqueue, hhandles, hafter⟩ :=
        Server.handled_handleMining hX hnext
      obtain ⟨hpool, huses⟩ := h.pool.changes hX (fun _ => h.awaited)
        (hhandles.changes _ hafter.state)
      refine ⟨h.publisher, hpool, hids, hidle, fun id huse => ?_⟩
      by_cases hold : s.TemplateInUse id.toNat
      · exact h.inUse id hold
      · -- A template that was not in use is that of the tip, for a new channel.
        obtain ⟨htip, hawaited, hopens, downstream, hd, hcustom⟩ :=
          (huses id.toNat huse).resolve_left hold
        obtain ⟨template, htemplate, -, hid⟩ := h.pool.lastFutureTemplate
        rw [hawaited] at hid
        have heq : id = template.templateId := UInt64.toNat_inj.1 (htip.trans hid.symm)
        have hknown := hguard ⟨d, message, queue, downstream, hqueue, hd, hcustom, hopens⟩
          template htemplate
        rw [← heq] at hknown
        obtain ⟨data, hdata⟩ := Option.isSome_iff_exists.1 hknown
        exact ⟨data, hdata, h.publisher.tip id data hdata htip⟩
    | newTemplate _ _ | setNewPrevHash _ _ => cases haction
    | _ => cases hhandler
  · obtain ⟨hpool, huses⟩ := h.pool.bookkeeping h.setupIdle
      (Server.bookkeeping_of_next hnext (by simpa using hhandler))
    exact ⟨h.publisher, hpool, hids, hidle, fun id huse => h.inUse id (huses _ huse)⟩

end Deliver

/-! ### Runs -/

section

variable [Double F]

/-- **One step.** -/
theorem Retains.next (hX : X.Laws) (hfresh : X.FreshJobIds) (h : Retains e s)
    {action : NodeAction X} (hstep : s.next cfg lib action = some s')
    (hkeeps : KeepsTemplates cfg lib s action) : ∃ e', Retains e' s' := by
  cases action with
  | waitNext block =>
    simp only [Node.next] at hstep
    split at hstep
    · rename_i hnil
      obtain ⟨p', hanswered, rfl⟩ := Option.map_eq_some_iff.1 hstep
      have hsettled := h.publisher.stage_eq_settled hnil
      obtain ⟨hwrap, hguard⟩ := hkeeps
      obtain ⟨data, hblock, hpublished | hpublished⟩ :=
        TemplatePublisher.published_waitNextAnswered h.publisher.idsBelow hanswered
      · refine ⟨_, h.mempoolPublished hsettled hwrap (fun huse => ?_) hpublished⟩
        obtain ⟨template, htemplate, -, hid⟩ := h.pool.lastFutureTemplate
        have htip : template.templateId.toNat = e.tip := by
          rw [hid, hsettled]
          rfl
        rw [← htip] at huse ⊢
        exact hguard template htemplate (hblock ▸ hpublished.prevHash) huse
      · exact ⟨_, h.tipPublished hsettled hwrap hpublished⟩
    · cases hstep
  | removeStale k =>
    obtain ⟨p', hremove, rfl⟩ := Option.map_eq_some_iff.1 hstep
    exact ⟨e, h.removed hkeeps hremove⟩
  | deliver orders =>
    have hout := h.publisher.outgoingMessages
    cases hstage : e.stage with
    | settled =>
      simp only [Node.next, hout, hstage, Stage.outgoingMessages] at hstep
      cases hstep
    | mempool data =>
      simp only [Node.next, hout, hstage, Stage.outgoingMessages] at hstep
      obtain ⟨server, hnext, rfl⟩ := Option.map_eq_some_iff.1 hstep
      exact ⟨_, h.mempoolHandled hX hfresh hstage hnext⟩
    | tip data =>
      simp only [Node.next, hout, hstage, Stage.outgoingMessages] at hstep
      obtain ⟨server, hnext, rfl⟩ := Option.map_eq_some_iff.1 hstep
      exact ⟨_, h.tipHandled hX hstage hnext⟩
    | prevHash data =>
      simp only [Node.next, hout, hstage, Stage.outgoingMessages] at hstep
      obtain ⟨server, hnext, rfl⟩ := Option.map_eq_some_iff.1 hstep
      exact ⟨_, h.prevHashHandled hX hstage hnext⟩
  | server action =>
    simp only [Node.next] at hstep
    split at hstep
    · cases hstep
    · rename_i haction
      obtain ⟨server, hnext, rfl⟩ := Option.map_eq_some_iff.1 hstep
      exact ⟨e, h.of_server hX (by simpa using haction) hnext hkeeps⟩

omit [Double F] in
theorem StartedWith.retains (h : StartedWith data s) :
    Retains ⟨0, 0, data.prevHash, .settled⟩ s := by
  have hnone := h.server.downstream?_eq_none
  have hlookup : ∀ id d, s.publisher.templateData.lookup id = some d → id = 0 ∧ d = data := by
    intro id d hd
    rw [h.publisher, AssocMap.lookup_insert_if] at hd
    split at hd
    · rename_i heq
      exact ⟨heq, (Option.some.inj hd).symm⟩
    · cases hd
  have hid : data.templateId.toNat = 0 := by
    rw [h.templateId]
    rfl
  refine ⟨⟨⟨fun id d hd => ?_, fun id d hd => ?_⟩, ?_, ?_, ?_, nofun, nofun, fun id d hd _ => ?_,
    fun task htask => ?_⟩, ⟨le_refl 0, ?_, ?_, fun d downstream hd => ?_⟩, h.server.idsInOrder,
    h.server.setupIdle, fun id huse => ?_⟩
  · obtain ⟨rfl, rfl⟩ := hlookup id d hd
    exact h.templateId
  · obtain ⟨rfl, -⟩ := hlookup id d hd
    rw [h.publisher]
    exact Nat.zero_lt_one
  · rw [h.publisher]
    rfl
  · rw [h.publisher]
    rfl
  · rw [h.publisher]
    rfl
  · rw [(hlookup id d hd).2]
  · rw [h.publisher] at htask
    cases htask
  · exact ⟨_, h.lastNewPrevHash, hid⟩
  · exact ⟨_, h.lastFutureTemplate, rfl, hid⟩
  · rw [hnone] at hd
    cases hd
  · obtain ⟨d, kind, id', c, job, hc, -⟩ := huse
    obtain ⟨downstream, hd, -⟩ := (ManagerState.channel?_eq_some _ _ _ _).1 hc
    rw [hnone] at hd
    cases hd

/-- **Templates are retained.**  In a run whose steps forget no template in use, every job
the pool accepts shares on finds its template. -/
theorem jobsRetained_of_keepsTemplates (hX : X.Laws) (hfresh : X.FreshJobIds)
    (cfg : ManagerConfig F) (lib : AddressLib Addr)
    {ts : List (Transition (Node X) (NodeAction X))} {s : Node X}
    (hrun : Run Started (Computes (next cfg lib)) ts s)
    (hkeeps : ∀ t ∈ ts, t.before.KeepsTemplates cfg lib t.action) :
    JobsRetained s := by
  have hinv : ∃ e, Retains e s :=
    hrun.invariant_of (I := fun s => ∃ e, Retains e s)
      (P := fun t => t.before.KeepsTemplates cfg lib t.action)
      (fun _ hstarted => hstarted.elim fun _ h => ⟨_, h.retains⟩)
      (fun _ _ _ hinv hstep hok => hinv.elim fun _ h => h.next hX hfresh hstep hok) hkeeps
  obtain ⟨e, h⟩ := hinv
  exact h.jobsRetained

end

/-! ## A tip with many templates -/

/-- The step is far from the limits: fewer than 256 templates of the tip, no message of a tip
change when a task wakes up, the template of the tip known. -/
def isFarFromLimits (s : Node X) : NodeAction X → Bool
  | .waitNext _ =>
    match s.server.manager.data.lastFutureTemplate with
    | none => false
    | some template => s.publisher.templateIdFactory.toNat + 1 < 2 ^ 64 ∧
      s.publisher.templateIdFactory.toNat <
        template.templateId.toNat + maxRetainedTemplatesPerPrevHash
  | .removeStale _ => s.publisher.outgoingMessages = []
  | .server (.handleMining _) =>
    match s.server.manager.data.lastFutureTemplate with
    | none => false
    | some template => (s.publisher.templateData.lookup template.templateId).isSome
  | .deliver _ | .server _ => true

theorem keepsTemplates_of_isFarFromLimits [Double F] {action : NodeAction X}
    (h : s.isFarFromLimits action = true) : s.KeepsTemplates cfg lib action := by
  cases action with
  | waitNext block =>
    simp only [isFarFromLimits] at h
    split at h
    · cases h
    · rename_i template htemplate
      have hfar := of_decide_eq_true h
      refine ⟨hfar.1, fun template' htemplate' _ _ => ?_⟩
      rw [htemplate, Option.some.injEq] at htemplate'
      subst htemplate'
      exact hfar.2
  | removeStale k =>
    have hnil : s.publisher.outgoingMessages = [] := of_decide_eq_true h
    rintro task - ⟨message, hmem, -⟩
    rw [hnil] at hmem
    cases hmem
  | deliver orders => trivial
  | server action =>
    cases action with
    | handleMining now =>
      simp only [isFarFromLimits] at h
      intro _ template htemplate
      rw [htemplate] at h
      exact h
    | _ => trivial

/-- The template of the first tip. -/
def tipData : TemplateData := ⟨0, 7, 5000000000, 1700000000, 0x207fffff⟩

/-- The server at the first tip. -/
def tipServer : Server tableChannels :=
  { tableServer with manager := { tableServer.manager with data :=
    { tableServer.manager.data with
      lastNewPrevHash := some tipData.getSetNewPrevHashMessage
      lastFutureTemplate := some (tipData.getNewTemplateMessage true) } } }

/-- Both programs at the first tip. -/
def tipNode : Node tableChannels :=
  ⟨⟨some tipData.prevHash, (∅ : AssocMap UInt64 TemplateData).insert 0 tipData, [], 1, [], []⟩,
    tipServer⟩

theorem tipNode_startedWith : StartedWith tipData tipNode :=
  ⟨rfl, rfl, ⟨rfl, rfl, rfl, rfl, rfl, rfl, rfl⟩, rfl, rfl⟩

/-- Alice connects and opens a channel. -/
def aliceOpens : List (NodeAction tableChannels) :=
  [.server .bootstrap, .server (.register 1), .server (.setupConnection 1 false false),
    .server (.forward 1 (openStandard aliceAddress (.num 1))), .server (.handleMining 0)]

/-- More fees on the tip, `n` times. -/
def moreFees : ℕ → List (NodeAction tableChannels)
  | 0 => []
  | n + 1 => moreFees n ++ [.waitNext ⟨7, 5000001000, 1700000000, 0x207fffff⟩, .deliver default]

/-- A new tip, and the end of the ten seconds. -/
def newTip : List (NodeAction tableChannels) :=
  [.waitNext ⟨8, 5000000000, 1700000600, 0x207fffff⟩, .deliver default, .deliver default,
    .removeStale 0]

theorem jobsRetained_of_keepsTemplates_newTip :
    JobsRetained (((aliceOpens ++ moreFees 1 ++ newTip).foldlM (next tableConfig tableLib)
      tipNode).get rfl) := by
  refine jobsRetained_of_keepsTemplates tableChannels_laws tableChannels_freshJobIds tableConfig
    tableLib (.ofActions ⟨tipData, tipNode_startedWith⟩ (aliceOpens ++ moreFees 1 ++ newTip) rfl)
    fun t ht => keepsTemplates_of_isFarFromLimits ?_
  have hall : ∀ t ∈ trace (next tableConfig tableLib) tipNode
      (aliceOpens ++ moreFees 1 ++ newTip), t.before.isFarFromLimits t.action = true := by
    decide +kernel
  exact hall t ht

/-- What the publisher knows after `n` more templates of the tip. -/
structure FeesPublished (n : ℕ) (p : TemplatePublisher) : Prop where
  idsBelow : p.IdsBelow p.templateIdFactory.toNat
  templateIdFactory : p.templateIdFactory.toNat = n + 1
  outgoingMessages : p.outgoingMessages = []
  currentPrevHash : p.currentPrevHash = some tipData.prevHash
  known : n < maxRetainedTemplatesPerPrevHash → ∀ id : UInt64, id.toNat ≤ n →
    ∃ data, p.templateData.lookup id = some data ∧ data.prevHash = tipData.prevHash
  evicted : n = maxRetainedTemplatesPerPrevHash → p.templateData.lookup 0 = none

/-- One more template. -/
theorem FeesPublished.succ {n : ℕ} {p : TemplatePublisher} (hp : FeesPublished n p)
    (hn : n < maxRetainedTemplatesPerPrevHash) :
    ∃ p', ([.waitNext ⟨7, 5000001000, 1700000000, 0x207fffff⟩, .deliver default] :
      List (NodeAction tableChannels)).foldlM (next tableConfig tableLib) ⟨p, tipServer⟩ =
        some ⟨p', tipServer⟩ ∧ FeesPublished (n + 1) p' := by
  have hanswered : ∃ p₁, p.waitNextAnswered ⟨7, 5000001000, 1700000000, 0x207fffff⟩ = some p₁ := by
    simp [TemplatePublisher.waitNextAnswered, hp.currentPrevHash, tipData]
  obtain ⟨p₁, hp₁⟩ := hanswered
  obtain ⟨data, hblock, hpublished | htip⟩ := published_waitNextAnswered hp.idsBelow hp₁
  · have hwrap : p.templateIdFactory.toNat + 1 < 2 ^ 64 := by
      rw [hp.templateIdFactory]
      unfold maxRetainedTemplatesPerPrevHash at hn
      omega
    have hfactory := Publishes.toNat_templateIdFactory hwrap hpublished.toPublished
    refine ⟨{ p₁ with outgoingMessages := [] }, ?_, ⟨?_, ?_⟩, ?_, rfl, ?_, fun hn' id hid => ?_,
      fun hn' => ?_⟩
    · have hout : p₁.outgoingMessages = [.newTemplate (data.getNewTemplateMessage false)] := by
        rw [hpublished.outgoingMessages, hp.outgoingMessages]
        rfl
      have hdeliver : next tableConfig tableLib ⟨p₁, tipServer⟩ (.deliver default) =
          some ⟨{ p₁ with outgoingMessages := [] }, tipServer⟩ := by
        simp only [next, hout]
        rfl
      simp only [List.foldlM_cons, List.foldlM_nil]
      rw [next, if_pos hp.outgoingMessages, hp₁]
      exact congrArg (fun s => s.bind some) hdeliver
    · exact hpublished.idsBelow.own
    · rw [hfactory]
      exact hpublished.idsBelow.below
    · rw [hfactory, hp.templateIdFactory]
    · rw [hpublished.currentPrevHash]
      exact hp.currentPrevHash
    · by_cases hnew : id = p.templateIdFactory
      · subst hnew
        exact ⟨data, hpublished.known, hblock⟩
      · have hle : id.toNat ≤ n := by
          have hne : id.toNat ≠ n + 1 := by
            rw [← hp.templateIdFactory]
            exact fun heq => hnew (UInt64.toNat_inj.1 heq)
          omega
        obtain ⟨old, hold, hprev⟩ := hp.known hn id hle
        refine ⟨old, hpublished.kept id old hold (.inr ?_), hprev⟩
        rw [hp.templateIdFactory]
        omega
    · obtain ⟨first, hfirst, hprev⟩ := hp.known hn 0 (Nat.zero_le n)
      refine hpublished.forgotten 0 first hfirst (hprev.trans hblock.symm) ?_ fun other _ hlt => ?_
      · rw [hp.templateIdFactory, hn']
        exact Nat.le_of_eq (Nat.zero_add _)
      · have hother : other.toNat ≤ n := by
          have hlt' := UInt64.lt_iff_toNat_lt.1 hlt
          rw [hp.templateIdFactory] at hlt'
          exact Nat.le_of_lt_succ hlt'
        obtain ⟨old, hold, hprev'⟩ := hp.known hn other hother
        exact ⟨old, hold, hprev'.trans hblock.symm⟩
  · obtain ⟨current, hcurrent, hne⟩ := htip.prevHash
    rw [hp.currentPrevHash, Option.some.injEq] at hcurrent
    exact absurd (hblock.trans hcurrent) hne

theorem feesPublished_moreFees (n : ℕ) (hn : n ≤ maxRetainedTemplatesPerPrevHash) :
    ∃ p, (moreFees n).foldlM (next tableConfig tableLib) tipNode = some ⟨p, tipServer⟩ ∧
      FeesPublished n p := by
  induction n with
  | zero =>
    have hstart := tipNode_startedWith.retains.publisher
    refine ⟨tipNode.publisher, rfl, hstart.idsBelow, rfl, rfl, rfl, fun _ id hid => ?_, nofun⟩
    have hid' : id = 0 := UInt64.toNat_inj.1 (Nat.le_zero.1 hid)
    subst hid'
    exact ⟨tipData, rfl, rfl⟩
  | succ n ih =>
    obtain ⟨p, hrun, hp⟩ := ih (Nat.le_of_succ_le hn)
    obtain ⟨p', hrun', hp'⟩ := hp.succ hn
    refine ⟨p', ?_, hp'⟩
    rw [moreFees, List.foldlM_append, hrun]
    exact hrun'

/-- **A channel is opened after 256 templates on one tip**: its job is made of the first,
which is forgotten. -/
theorem jobsRetained_fails_manyTemplates :
    ¬ ∀ ts (s : Node tableChannels), Run Started (Computes (next tableConfig tableLib)) ts s →
      JobsRetained s := by
  intro hall
  obtain ⟨p, hrun, hp⟩ := feesPublished_moreFees maxRetainedTemplatesPerPrevHash (le_refl _)
  have hstart : Run Started (Computes (next tableConfig tableLib)) [] tipNode :=
    .start ⟨tipData, tipNode_startedWith⟩
  have hretained := hall _ _ ((hstart.replay _ hrun).replay aliceOpens rfl)
  have hsome := hretained 1 .standard 2 _ rfl _ (.active rfl) (tipData.getNewTemplateMessage true)
    rfl ⟨0, 0, 0, 0, []⟩ rfl
  simp only [TemplatePublisher.handleSubmitSolution] at hsome
  rw [hp.evicted rfl] at hsome
  cases hsome

end Node

end CanaryMining
