import CanaryMining.Manager.Delivery

/-!
# What a connection was told before

Every message of the manager that names a channel, a group or a job of a connection comes
after the messages that introduced them to it, except that a previous hash may name a job of
the group that no message announced: the one a new connection starts with, or one that the
group was given while it had no channel or while the connection required standard jobs.

## Main definitions

* `ChannelsSv2.JobLaws` — what the library promises of the channel ids of jobs.
* `ManagerState.Keyed` — each channel has the id it is found under.
* `Knows`, `Booked` — a connection knows its channels and the jobs it may be told to work on.
* `Server.Untold` — a step gives a group a job that is not announced.
* `PoolServer.Known` — what a connection knows after some messages.

**Main result:** `PoolServer.toldBefore_of_run`.
-/

namespace CanaryMining

variable {F : Type} {X : ChannelsSv2 F} {Addr : Type}

namespace ChannelsSv2

/-- **What the library promises of channel ids.**  A channel keeps the id it is made with, and
the message of a job it makes has this id; the message of a job of a group has the group's. -/
structure JobLaws (X : ChannelsSv2 F) : Prop where
  newForPool : ∀ kind id user pre target hash batch spm store tag (c : X.Channel kind),
    X.newForPool kind id user pre target hash batch spm store tag = .ok c → X.channelId c = id
  onNewTemplate : ∀ kind (c c' : X.Channel kind) template outputs,
    X.onNewTemplate c template outputs = .ok c' → X.channelId c' = X.channelId c ∧
      ∀ job, (X.jobStore c').templateJob template = some job →
        ServerJob.channelId job = X.channelId c
  onGroupChannelJob : ∀ kind (c c' : X.Channel kind) groupJob,
    X.onGroupChannelJob c groupJob = .ok c' → X.channelId c' = X.channelId c
  onSetNewPrevHash : ∀ kind (c c' : X.Channel kind) message,
    X.onSetNewPrevHash c message = .ok c' → X.channelId c' = X.channelId c
  updateChannel : ∀ kind (c : X.Channel kind) hash target,
    X.channelId (X.updateChannel c hash target).2 = X.channelId c
  validateShare : ∀ kind (c : X.Channel kind) share,
    X.channelId (X.validateShare c share).2 = X.channelId c
  groupOnNewTemplate : ∀ g g' template outputs, X.groupOnNewTemplate g template outputs = .ok g' →
    ∀ job, (X.groupJobStore g').templateJob template = some job →
      ServerJob.channelId job = X.groupChannelId g'

end ChannelsSv2

/-- A job that a channel of the table makes has its id. -/
theorem TableChannel.channelId_onNewTemplate {c : TableChannel} {template : NewTemplate}
    {outputs : List TxOut} {job : TableJob}
    (h : (c.onNewTemplate template outputs).jobStore.templateJob template = some job) :
    job.channelId = c.channelId := by
  simp only [TableChannel.onNewTemplate, BoundedJobStore.templateJob_addTemplateJob,
    Option.some.injEq] at h
  rw [← h]

theorem TableChannel.channelId_onSetNewPrevHash {c c' : TableChannel} {message : SetNewPrevHash}
    (h : c.onSetNewPrevHash message = .ok c') : c'.channelId = c.channelId := by
  unfold TableChannel.onSetNewPrevHash at h
  dsimp only at h
  split at h
  · split at h
    · rw [← Except.ok.inj h]
    · cases h
  · rw [← Except.ok.inj h]

theorem tableChannels_jobLaws : tableChannels.JobLaws where
  newForPool kind id user pre target hash batch spm store tag c h := by
    simp only [tableChannels] at h
    cases hash with
    | nan =>
      rw [← Except.ok.inj h]
      rfl
    | num q =>
      by_cases hq : q < 0
      · simp [hq] at h
      · simp only [hq, if_false] at h
        rw [← Except.ok.inj h]
        rfl
  onNewTemplate kind c c' template outputs h := by
    rw [← Except.ok.inj h]
    exact ⟨rfl, fun job hjob => TableChannel.channelId_onNewTemplate hjob⟩
  onGroupChannelJob kind c c' groupJob h := by
    have hc' : TableChannel.onGroupChannelJob c groupJob = c' := Except.ok.inj h
    rw [← hc']
    unfold TableChannel.onGroupChannelJob
    split <;> rfl
  onSetNewPrevHash kind c c' message h := TableChannel.channelId_onSetNewPrevHash h
  updateChannel kind c hash target := by
    cases hash <;> rfl
  validateShare _ _ _ := rfl
  groupOnNewTemplate g g' template outputs h job hjob := by
    have hg' : TableChannel.onNewTemplate g template outputs = g' := Except.ok.inj h
    have hid : job.channelId = TableChannel.channelId g := by
      rw [← hg'] at hjob
      exact TableChannel.channelId_onNewTemplate hjob
    rw [← hg']
    exact hid

/-! ## The jobs of a channel -/

section Channel

variable {kind : MinerChannelKind} {c c' : X.Channel kind} {id : ChannelId}
  {messages : List (Mining X)}

/-- A job that is held after a new previous hash was held before, under its id. -/
theorem exists_holds_of_setsNewPrevHash (hX : X.Laws) {store store' : BoundedJobStore (X.Job kind)}
    {message : SetNewPrevHash} (h : store.SetsNewPrevHash message store') {job : X.Job kind}
    (hjob : store'.Holds job) : ∃ old, store.Holds old ∧ Job.getJobId old = Job.getJobId job := by
  rcases h with hactivated | ⟨-, rfl⟩
  · have hheld :
        (store.activateFutureJob message.templateId message.headerTimestamp).2.Holds job := by
      rw [hactivated]
      exact hjob
    rcases hheld.of_activateFutureJob with hold | ⟨future, hfuture, rfl⟩
    · exact ⟨job, hold, rfl⟩
    · exact ⟨future, hfuture, (hX.activate kind future _).2.2.symm⟩
  · exact ⟨job, hjob.of_markPastJobsAsStale, rfl⟩

theorem Touched.jobStore (hX : X.Laws) (h : Touched c c') : X.jobStore c' = X.jobStore c := by
  induction h with
  | refl => rfl
  | updated hash target _ ih => exact (hX.updateChannel kind _ hash target).2.trans ih
  | validated share _ ih => exact (hX.validateShare kind _ share).2.trans ih

theorem Touched.channelId (hJ : X.JobLaws) (h : Touched c c') : X.channelId c' = X.channelId c := by
  induction h with
  | refl => rfl
  | updated hash target _ ih => exact (hJ.updateChannel kind _ hash target).trans ih
  | validated share _ ih => exact (hJ.validateShare kind _ share).trans ih

/-- A channel has the id it was made under. -/
theorem Made.channelId (hJ : X.JobLaws) (h : Made id kind c messages) : X.channelId c = id := by
  cases h with
  | started hnew hstarted =>
    obtain ⟨given, jobId, job, hgiven, -, -, hactivated, -⟩ := firstJob_eq_ok hstarted
    rw [hJ.onSetNewPrevHash _ _ _ _ hactivated, (hJ.onNewTemplate _ _ _ _ _ hgiven).1]
    exact hJ.newForPool _ _ _ _ _ _ _ _ _ _ _ hnew
  | customWork hnew hactivated =>
    rw [hJ.onSetNewPrevHash _ _ _ _ hactivated]
    exact hJ.newForPool _ _ _ _ _ _ _ _ _ _ _ hnew

/-- A new channel starts with one job, which is announced before the previous hash names it,
unless it is an extended channel with custom work. -/
theorem Made.firstJob (hX : X.Laws) (hJ : X.JobLaws) (h : Made id kind c messages) :
    kind = .extended ∧ messages = [] ∨
    ∃ (job : X.Job kind) (prevHash : BitVec 256) (minNtime nbits : UInt32),
      messages = [.newJob kind job, .setNewPrevHash id (Job.getJobId job) prevHash minNtime nbits] ∧
      ServerJob.channelId job = id ∧
      ∀ held, (X.jobStore c).Holds held → Job.getJobId held = Job.getJobId job := by
  cases h with
  | customWork _ _ => exact .inl ⟨rfl, rfl⟩
  | @started kind new c user pre tag target hash spm batch template prev outputs messages hnew
      hstarted =>
    right
    obtain ⟨given, jobId, job, hgiven, hjobId, hjob, hactivated, rfl⟩ := firstJob_eq_ok hstarted
    obtain ⟨-, made, -, hadded⟩ := hX.onNewTemplate _ _ _ _ _ hgiven
    obtain ⟨-, hchannelId⟩ := hJ.onNewTemplate _ _ _ _ _ hgiven
    rw [(hX.newForPool _ _ _ _ _ _ _ _ _ _ _ hnew).2] at hadded
    rw [hadded] at hjobId hjob hchannelId
    have hsame : job = made := BoundedJobStore.eq_of_getFutureJob hjob
    subst hsame
    have hid : jobId = Job.getJobId job := by
      cases hfuture : template.futureTemplate with
      | true =>
        rw [BoundedJobStore.addTemplateJob_of_future hfuture] at hjobId
        have hlookup := BoundedJobStore.addFutureJob_lookup .new template.templateId job
        exact Option.some.inj (hjobId.symm.trans hlookup.1)
      | false =>
        rw [BoundedJobStore.addTemplateJob_of_not_future hfuture] at hjobId
        cases hjobId
    refine ⟨job, prev.prevHash, prev.headerTimestamp, prev.nBits, by rw [hid], ?_, ?_⟩
    · rw [hchannelId job (BoundedJobStore.templateJob_addTemplateJob _ _ _)]
      exact hJ.newForPool _ _ _ _ _ _ _ _ _ _ _ hnew
    · intro held hheld
      obtain ⟨old, hold, heq⟩ :=
        exists_holds_of_setsNewPrevHash hX (hX.onSetNewPrevHash _ _ _ _ hactivated).2 hheld
      rw [hadded] at hold
      rw [← heq, hold.of_addTemplateJob.resolve_right (BoundedJobStore.not_holds_new old)]

end Channel

/-! ## Where the channels after a step come from -/

section Steps

variable {opens sends : DownstreamId → Prop} {s s' : ManagerState X} {d : DownstreamId}
  {messages : List (RouteMessageTo X)}

/-- A channel after a mining message or a vardiff cycle was there before, or was just made. -/
theorem Inventory.channel_before (h : Inventory opens sends s s' messages)
    {kind : MinerChannelKind} {id : ChannelId} {c' : X.Channel kind}
    (hc' : s'.channel? d kind id = some c') :
    (∃ c, s.channel? d kind id = some c ∧ Touched c c') ∨
      ∃ success started, sentTo d messages = success :: started ∧ Made id kind c' started := by
  cases h with
  | kept hkeeps _ _ | refused _ hkeeps _ _ => exact .inl (hkeeps.touched d kind id c' hc')
  | opened _ hopens =>
    obtain ⟨success, started, rfl, -, -, -, -, horigin⟩ := hopens.messages
    rcases horigin d kind id c' hc' with hold | ⟨rfl, rfl, hmade⟩
    · exact .inl hold
    · refine .inr ⟨success, started, ?_, hmade⟩
      rw [sentTo_map_downstream, if_pos rfl]
  | closed hcloses _ =>
    rw [hcloses.channel] at hc'
    split at hc'
    · cases hc'
    · exact .inl ⟨c', hc', .refl⟩

/-- The group of a connection keeps its id. -/
theorem Inventory.groupIds?_before (h : Inventory opens sends s s' messages) {id : ChannelId}
    {ids : List ChannelId} (hids : s'.groupIds? d = some (id, ids)) :
    ∃ ids, s.groupIds? d = some (id, ids) := by
  cases h with
  | kept hkeeps _ _ | refused _ hkeeps _ _ => exact ⟨ids, by rw [← hkeeps.group, hids]⟩
  | @opened d₀ _ groupId _ hopens =>
    by_cases hd : d = d₀
    · subst hd
      rw [hopens.group id ids hids]
      exact hopens.group_before
    · exact ⟨ids, by rw [← hopens.group_ne d hd, hids]⟩
  | closed hcloses _ => exact ⟨ids, by rw [← hcloses.group, hids]⟩

namespace ManagerState

/-- Each channel has the id it is found under. -/
def Keyed (s : ManagerState X) : Prop :=
  ∀ d kind id c, s.channel? d kind id = some c → X.channelId c = id

theorem Keyed.inventory (hJ : X.JobLaws) (h : s.Keyed)
    (hstep : Inventory opens sends s s' messages) : s'.Keyed := by
  intro d kind id c' hc'
  rcases hstep.channel_before hc' with ⟨c, hc, htouched⟩ | ⟨_, _, -, hmade⟩
  · rw [htouched.channelId hJ, h d kind id c hc]
  · exact hmade.channelId hJ

/-- A message of the template provider whose library calls keep ids. -/
theorem Keyed.each {change : Downstream X → Downstream X → Prop} (h : s.Keyed)
    (heach : EachDownstream change s s')
    (habsent : ∀ before after, change before after → ∀ kind id,
      (before.downstreamData.channels kind).lookup id = none →
        (after.downstreamData.channels kind).lookup id = none)
    (hid : ∀ before after, change before after → ∀ kind id (c c' : X.Channel kind),
      (before.downstreamData.channels kind).lookup id = some c →
        (after.downstreamData.channels kind).lookup id = some c' →
          X.channelId c' = X.channelId c) : s'.Keyed := by
  intro d kind id c' hc'
  rcases heach.channel_before habsent hc' with
    hold | ⟨before, after, c, hd, -, -, hchange, hc, hafter⟩
  · exact h d kind id c' hold
  · rw [hid before after hchange kind id c c' hc hafter]
    exact h d kind id c ((channel?_eq_some _ _ _ _).2 ⟨before, hd, hc⟩)

end ManagerState

/-- A channel that was given a template keeps its id. -/
theorem TemplateGiven.channelId (hJ : X.JobLaws) {template : NewTemplate} {outputs : List TxOut}
    {before after : Downstream X} (h : TemplateGiven template outputs before after)
    {kind : MinerChannelKind} {id : ChannelId} {c c' : X.Channel kind}
    (hc : (before.downstreamData.channels kind).lookup id = some c)
    (hc' : (after.downstreamData.channels kind).lookup id = some c') :
    X.channelId c' = X.channelId c := by
  obtain ⟨groupJob, -, -, -, hchannel⟩ := h.channel
  obtain ⟨c'', hc'', hgiven⟩ := hchannel kind id c hc
  have hsame : c' = c'' := Option.some.inj (hc'.symm.trans hc'')
  subst hsame
  split at hgiven
  · exact (hJ.onNewTemplate _ _ _ _ _ hgiven).1
  · exact hJ.onGroupChannelJob _ _ _ _ hgiven

/-- A channel at a new previous hash keeps its id, and holds jobs with the ids of old ones. -/
theorem PrevHashSet.channel_before (hX : X.Laws) (hJ : X.JobLaws) {message : SetNewPrevHash}
    {before after : Downstream X} (h : PrevHashSet message before after)
    {kind : MinerChannelKind} {id : ChannelId} {c' : X.Channel kind}
    (hc' : (after.downstreamData.channels kind).lookup id = some c') :
    ∃ c, (before.downstreamData.channels kind).lookup id = some c ∧
      X.channelId c' = X.channelId c ∧ ∀ job, (X.jobStore c').Holds job →
        ∃ old, (X.jobStore c).Holds old ∧ Job.getJobId old = Job.getJobId job := by
  cases hc : (before.downstreamData.channels kind).lookup id with
  | none =>
    rw [h.absent kind id hc] at hc'
    cases hc'
  | some c =>
    obtain ⟨c'', hc'', hset⟩ := h.channel kind id c hc
    have hsame : c' = c'' := Option.some.inj (hc'.symm.trans hc'')
    subst hsame
    exact ⟨c, rfl, hJ.onSetNewPrevHash _ _ _ _ hset,
      fun _ hjob => exists_holds_of_setsNewPrevHash hX (hX.onSetNewPrevHash _ _ _ _ hset).2 hjob⟩

end Steps

/-! ## What a connection knows -/

/-- What a connection knows grows with what it is told, by all that this introduces. -/
structure Knows (known : List (Mining X) → Topic → Prop) : Prop where
  grows : Grows known
  said : ∀ messages m topic, m ∈ messages → topic ∈ m.introduced → known messages topic

/-- Every message names only what is known from those before it. -/
abbrev ToldBefore (known : List (Mining X) → Topic → Prop) (messages : List (Mining X)) : Prop :=
  Introduced known (fun (m : Mining X) topic => topic ∈ m.topics) messages

/-- A connection that was told some messages knows the channels it has, the jobs of its group,
and, with standard jobs, those of its standard channels. -/
structure Booked (known : List (Mining X) → Topic → Prop) (s : ManagerState X)
    (d : DownstreamId) (told : List (Mining X)) : Prop where
  toldBefore : ToldBefore known told
  channel : ∀ id, s.HasId d id → known told (.channel id)
  group : ∀ downstream, s.downstream? d = some downstream →
    ∀ job, (X.groupJobStore downstream.downstreamData.groupChannel).Holds job →
      known told (.job (X.groupChannelId downstream.downstreamData.groupChannel)
        (Job.getJobId job))
  standard : ∀ downstream, s.downstream? d = some downstream →
    downstream.requiresStandardJobs = true →
    ∀ id c, downstream.downstreamData.standardChannels.lookup id = some c →
      ∀ job, (X.jobStore c).Holds job → known told (.job id (Job.getJobId job))

section Booked

variable {known known' : List (Mining X) → Topic → Prop} {opens sends : DownstreamId → Prop}
  {s s' : ManagerState X} {d : DownstreamId} {told : List (Mining X)}
  {messages : List (RouteMessageTo X)}

theorem Booked.imp (h : Booked known s d told)
    (himp : ∀ before topic, known before topic → known' before topic) : Booked known' s d told :=
  ⟨h.toldBefore.imp himp, fun id hid => himp _ _ (h.channel id hid),
    fun downstream hd job hjob => himp _ _ (h.group downstream hd job hjob),
    fun downstream hd hstd id c hc job hjob =>
      himp _ _ (h.standard downstream hd hstd id c hc job hjob)⟩

/-- The messages that open a channel introduce what they name. -/
theorem Knows.opened (hk : Knows known) (hX : X.Laws) (hJ : X.JobLaws)
    (h : ToldBefore known told) {success : Mining X} {started : List (Mining X)}
    {id groupId : ChannelId} {kind : MinerChannelKind} {c : X.Channel kind}
    (hintroduced : success.introduced = [.channel id, .channel groupId])
    (htopics : success.topics = []) (hmade : Made id kind c started) :
    ToldBefore known (told ++ success :: started) := by
  have hopened : ToldBefore known (told ++ [success]) := by
    refine h.append_known hk.grows fun m hm topic htopic => ?_
    rw [List.mem_singleton.1 hm, htopics] at htopic
    cases htopic
  have hchannel : known (told ++ [success]) (.channel id) := by
    refine hk.said _ success _ (List.mem_append_right _ (List.mem_singleton.2 rfl)) ?_
    rw [hintroduced]
    exact List.mem_cons_self
  rcases hmade.firstJob hX hJ with ⟨-, rfl⟩ | ⟨job, prevHash, minNtime, nbits, rfl, hid, -⟩
  · exact hopened
  · have hannounced : ToldBefore known ((told ++ [success]) ++ [.newJob kind job]) := by
      refine hopened.append_known hk.grows fun m hm topic htopic => ?_
      rw [List.mem_singleton.1 hm] at htopic
      have hname : topic = .channel (ServerJob.channelId job) := by
        cases kind <;> exact List.mem_singleton.1 htopic
      rw [hname, hid]
      exact hchannel
    have hjob : known ((told ++ [success]) ++ [.newJob kind job])
        (.job id (Job.getJobId job)) := by
      refine hk.said _ (.newJob kind job) _
        (List.mem_append_right _ (List.mem_singleton.2 rfl)) ?_
      rw [← hid]
      cases kind <;> exact List.mem_singleton.2 rfl
    have hall : told ++ success :: [.newJob kind job,
        .setNewPrevHash id (Job.getJobId job) prevHash minNtime nbits] =
        (((told ++ [success]) ++ [.newJob kind job]) ++
          [.setNewPrevHash id (Job.getJobId job) prevHash minNtime nbits]) := by
      simp
    rw [hall]
    refine hannounced.append_known hk.grows fun m hm topic htopic => ?_
    rw [List.mem_singleton.1 hm] at htopic
    simp only [Mining.topics, List.mem_cons, List.not_mem_nil, or_false] at htopic
    rcases htopic with rfl | rfl
    · exact hk.grows _ _ _ hchannel
    · exact hjob

/-- What the handler of a mining message and the vardiff cycle say is known. -/
theorem Booked.toldBefore_inventory (hk : Knows known) (hX : X.Laws) (hJ : X.JobLaws)
    (h : Booked known s d told) (hstep : Inventory opens sends s s' messages) :
    ToldBefore known (told ++ sentTo d messages) := by
  cases hstep with
  | kept _ _ hfit | refused _ _ _ hfit =>
    refine h.toldBefore.append_known hk.grows fun m hm topic htopic => ?_
    obtain ⟨id, rfl, hid⟩ := (hfit d m (mem_sentTo.1 hm)).topics topic htopic
    exact h.channel id hid
  | @opened d₀ id groupId _ hopens =>
    obtain ⟨success, started, rfl, hintroduced, htopics, -, ⟨kind, c, hmade⟩, -⟩ :=
      hopens.messages
    rw [sentTo_map_downstream]
    split
    · exact hk.opened hX hJ h.toldBefore hintroduced htopics hmade
    · rw [List.append_nil]
      exact h.toldBefore
  | closed _ hnil =>
    rw [hnil, sentTo_nil, List.append_nil]
    exact h.toldBefore

/-- The channels after such a step are known. -/
theorem Booked.channel_inventory (hk : Knows known) (h : Booked known s d told)
    (hstep : Inventory opens sends s s' messages) {id : ChannelId} (hid : s'.HasId d id) :
    known (told ++ sentTo d messages) (.channel id) := by
  cases hstep with
  | kept hkeeps _ _ | refused _ hkeeps _ _ =>
    exact hk.grows _ _ _ (h.channel id (hkeeps.hasId.1 hid))
  | @opened d₀ id₀ groupId _ hopens =>
    obtain ⟨success, started, rfl, hintroduced, -⟩ := hopens.messages
    obtain ⟨kind, hchannel⟩ := hopens.channel
    by_cases hd : d = d₀
    · subst hd
      have hnew : ∀ topic ∈ success.introduced,
          known (told ++ sentTo d ((success :: started).map (.downstream d))) topic := by
        intro topic hmem
        rw [sentTo_map_downstream, if_pos rfl]
        exact hk.said _ success topic (List.mem_append_right _ List.mem_cons_self) hmem
      rw [hintroduced] at hnew
      rcases hid with ⟨kind', hc⟩ | ⟨ids, hids, -⟩
      · rw [hchannel, Bool.or_eq_true, decide_eq_true_eq] at hc
        rcases hc with ⟨-, -, rfl⟩ | hc
        · exact hnew _ List.mem_cons_self
        · exact hk.grows _ _ _ (h.channel id (.inl ⟨kind', hc⟩))
      · rw [hopens.group id ids hids]
        exact hnew _ (by simp)
    · refine hk.grows _ _ _ (h.channel id ?_)
      rcases hid with ⟨kind', hc⟩ | hgroup
      · rw [hchannel, Bool.or_eq_true, decide_eq_true_eq] at hc
        rcases hc with ⟨heq, -, -⟩ | hc
        · exact absurd heq hd
        · exact .inl ⟨kind', hc⟩
      · rw [hopens.group_ne d hd] at hgroup
        exact .inr hgroup
  | closed hcloses _ =>
    refine hk.grows _ _ _ (h.channel id ?_)
    rcases hid with ⟨kind', hc⟩ | hgroup
    · rw [hcloses.channel] at hc
      split at hc
      · cases hc
      · exact .inl ⟨kind', hc⟩
    · rw [hcloses.group] at hgroup
      exact .inr hgroup

/-- **The step lemma of mining messages and vardiff cycles**, which keep the settings of a
connection and the jobs of its group. -/
theorem Booked.inventory (hk : Knows known) (hX : X.Laws) (hJ : X.JobLaws)
    (h : Booked known s d told) (hstep : Inventory opens sends s s' messages)
    (hsame : ∀ after, s'.downstream? d = some after →
      ∃ before, s.downstream? d = some before ∧ SameSettings before after) :
    Booked known s' d (told ++ sentTo d messages) := by
  refine ⟨h.toldBefore_inventory hk hX hJ hstep, fun id hid => h.channel_inventory hk hstep hid,
    fun after hafter job hjob => ?_, fun after hafter hstd id c' hc' job hjob => ?_⟩
  · obtain ⟨before, hbefore, hsettings⟩ := hsame after hafter
    have hids : s'.groupIds? d = some (X.groupChannelId after.downstreamData.groupChannel,
        X.groupChannelIds after.downstreamData.groupChannel) := by
      rw [ManagerState.groupIds?, hafter]
      rfl
    obtain ⟨ids, hold⟩ := hstep.groupIds?_before hids
    rw [ManagerState.groupIds?, hbefore, Option.map_some, Option.some.injEq, Prod.mk.injEq] at hold
    rw [hsettings.groupJobStore] at hjob
    rw [← hold.1]
    exact hk.grows _ _ _ (h.group before hbefore job hjob)
  · obtain ⟨before, hbefore, hsettings⟩ := hsame after hafter
    have hchannel : s'.channel? d .standard id = some c' :=
      (ManagerState.channel?_eq_some _ _ _ _).2 ⟨after, hafter, hc'⟩
    rcases hstep.channel_before hchannel with ⟨c, hc, htouched⟩ | ⟨success, started, hsent, hmade⟩
    · obtain ⟨before', hbefore', hc⟩ := (ManagerState.channel?_eq_some _ _ _ _).1 hc
      have heq : before' = before := Option.some.inj (hbefore'.symm.trans hbefore)
      rw [heq] at hc
      rw [htouched.jobStore hX] at hjob
      exact hk.grows _ _ _ (h.standard before hbefore
        (hsettings.requiresStandardJobs.symm.trans hstd) id c hc job hjob)
    · rcases hmade.firstJob hX hJ with ⟨hkind, -⟩ | ⟨first, _, _, _, rfl, hid, hall⟩
      · cases hkind
      · rw [hall job hjob, ← hid]
        refine hk.said _ (.newMiningJob first) _ (List.mem_append_right _ ?_)
          (List.mem_singleton.2 rfl)
        rw [hsent]
        exact List.mem_cons_of_mem _ List.mem_cons_self

/-! ### The messages of the template provider -/

/-- The channel of a group is one of its connection, if the group has channels. -/
theorem ManagerState.hasId_group {downstream : Downstream X}
    (hd : s.downstream? d = some downstream)
    (hne : X.groupChannelIds downstream.downstreamData.groupChannel ≠ []) :
    s.HasId d (X.groupChannelId downstream.downstreamData.groupChannel) := by
  refine .inr ⟨X.groupChannelIds downstream.downstreamData.groupChannel, ?_, hne⟩
  rw [ManagerState.groupIds?, hd]
  rfl

theorem ManagerState.channel?_standard {downstream : Downstream X} {id : ChannelId}
    {c : X.Channel .standard} (hd : s.downstream? d = some downstream)
    (hc : downstream.downstreamData.standardChannels.lookup id = some c) :
    s.channel? d .standard id = some c :=
  (ManagerState.channel?_eq_some s d .standard id).2 ⟨downstream, hd, hc⟩

theorem ManagerState.hasId_standard {downstream : Downstream X} {id : ChannelId}
    {c : X.Channel .standard} (hd : s.downstream? d = some downstream)
    (hc : downstream.downstreamData.standardChannels.lookup id = some c) : s.HasId d id := by
  refine .inl ⟨.standard, ?_⟩
  rw [ManagerState.channel?_standard hd hc]
  rfl

section NewTemplate

variable {template : NewTemplate} {outputs : List TxOut} {before after : Downstream X}

/-- A standard channel of a connection with standard jobs gets its own job, with its id. -/
theorem TemplateGiven.standard (hX : X.Laws) (hJ : X.JobLaws)
    (h : TemplateGiven template outputs before after) (hstd : before.requiresStandardJobs = true)
    {id : ChannelId} {c' : X.Channel .standard}
    (hc' : after.downstreamData.standardChannels.lookup id = some c') :
    ∃ c job, before.downstreamData.standardChannels.lookup id = some c ∧
      (X.jobStore c').templateJob template = some job ∧
      ServerJob.channelId job = X.channelId c ∧
      X.jobStore c' = (X.jobStore c).addTemplateJob template job := by
  cases hc : before.downstreamData.standardChannels.lookup id with
  | none =>
    rw [show after.downstreamData.standardChannels.lookup id = none from
      h.absent .standard id hc] at hc'
    cases hc'
  | some c =>
    obtain ⟨groupJob, -, -, -, hchannel⟩ := h.channel
    obtain ⟨c'', hc'', hgiven⟩ := hchannel .standard id c hc
    have hsame : c' = c'' := Option.some.inj (hc'.symm.trans hc'')
    subst hsame
    rw [if_pos ⟨rfl, hstd⟩] at hgiven
    obtain ⟨-, job, -, hstore⟩ := hX.onNewTemplate _ _ _ _ _ hgiven
    have hjob : (X.jobStore c').templateJob template = some job := by
      rw [hstore, BoundedJobStore.templateJob_addTemplateJob]
    exact ⟨c, job, rfl, hjob, (hJ.onNewTemplate _ _ _ _ _ hgiven).2 job hjob, hstore⟩

/-- The group of a connection gets a job with its id, which it keeps. -/
theorem TemplateGiven.group (hX : X.Laws) (hG : X.GroupLaws) (hJ : X.JobLaws)
    (h : TemplateGiven template outputs before after) :
    X.groupChannelId after.downstreamData.groupChannel =
        X.groupChannelId before.downstreamData.groupChannel ∧
      X.groupChannelIds after.downstreamData.groupChannel =
        X.groupChannelIds before.downstreamData.groupChannel ∧
      ∃ job, (X.groupJobStore after.downstreamData.groupChannel).templateJob template = some job ∧
        ServerJob.channelId job = X.groupChannelId after.downstreamData.groupChannel ∧
        X.groupJobStore after.downstreamData.groupChannel =
          (X.groupJobStore before.downstreamData.groupChannel).addTemplateJob template job := by
  obtain ⟨groupJob, -, hgroup, -, -⟩ := h.channel
  obtain ⟨hid, hids⟩ := hG.groupOnNewTemplate _ _ _ _ hgroup
  obtain ⟨job, -, hstore⟩ := hX.groupOnNewTemplate _ _ _ _ hgroup
  have hjob : (X.groupJobStore after.downstreamData.groupChannel).templateJob template =
      some job := by
    rw [hstore, BoundedJobStore.templateJob_addTemplateJob]
  exact ⟨hid, hids, job, hjob, hJ.groupOnNewTemplate _ _ _ _ hgroup job hjob, hstore⟩

/-- A message about a template names a channel of its connection, or its group. -/
theorem TemplateTold.topics (hX : X.Laws) (hG : X.GroupLaws) (hJ : X.JobLaws) (hkeyed : s.Keyed)
    (hbefore : s.downstream? d = some before) (hgiven : TemplateGiven template outputs before after)
    (htold : TemplateTold template d before after messages) {m : Mining X}
    (hm : .downstream d m ∈ messages) {topic : Topic} (htopic : topic ∈ m.topics) :
    ∃ id, topic = .channel id ∧ s.HasId d id := by
  rcases htold.message m hm with ⟨job, rfl, hne, hjob⟩ | ⟨hstd, id, c', job, rfl, hc', hjob⟩
  · obtain ⟨hid, hids, job', hjob', hchannelId, -⟩ := hgiven.group hX hG hJ
    have hsame : job' = job := Option.some.inj (hjob'.symm.trans hjob)
    rw [hsame, hid] at hchannelId
    rw [hids] at hne
    refine ⟨_, List.mem_singleton.1 htopic, ?_⟩
    rw [hchannelId]
    exact ManagerState.hasId_group hbefore hne
  · obtain ⟨c, job', hc, hjob', hchannelId, -⟩ := hgiven.standard hX hJ hstd hc'
    have hsame : job' = job := Option.some.inj (hjob'.symm.trans hjob)
    rw [hsame, hkeyed d .standard id c (ManagerState.channel?_standard hbefore hc)] at hchannelId
    refine ⟨_, List.mem_singleton.1 htopic, ?_⟩
    rw [hchannelId]
    exact ManagerState.hasId_standard hbefore hc

end NewTemplate

/-- **The step lemma of templates**, where what is known includes the job that a group is
given without being announced. -/
theorem Booked.newTemplate (hk : Knows known) (hX : X.Laws) (hG : X.GroupLaws) (hJ : X.JobLaws)
    (h : Booked known s d told) (hkeyed : s.Keyed) {template : NewTemplate}
    {outputs : Downstream X → List TxOut}
    (heach : EachDownstream (fun before after =>
      TemplateGiven template (outputs before) before after) s s')
    (htold : EachTold (TemplateTold template) s s' messages) (hprovided : Provided s s' messages)
    (hquiet : ∀ before after job, s.downstream? d = some before →
      before.requiresCustomWork = false → s'.downstream? d = some after →
      before.requiresStandardJobs = true ∨
        X.groupChannelIds after.downstreamData.groupChannel = [] →
      (X.groupJobStore after.downstreamData.groupChannel).templateJob template = some job →
      known (told ++ sentTo d messages)
        (.job (X.groupChannelId after.downstreamData.groupChannel) (Job.getJobId job))) :
    Booked known s' d (told ++ sentTo d messages) := by
  have hnew : ∀ m topic, .downstream d m ∈ messages → topic ∈ m.introduced →
      known (told ++ sentTo d messages) topic := fun m topic hm htopic =>
    hk.said _ m topic (List.mem_append_right _ (mem_sentTo.2 hm)) htopic
  refine ⟨?_, fun id hid => hk.grows _ _ _ (h.channel id (hprovided.hasId.1 hid)),
    fun after hafter job hjob => ?_, fun after hafter hstd id c' hc' job hjob => ?_⟩
  · refine h.toldBefore.append_known hk.grows fun m hm topic htopic => ?_
    obtain ⟨before, hbefore, hcustom⟩ := htold.registered d m (mem_sentTo.1 hm)
    obtain ⟨after, hafter, hturn⟩ := heach.present d before hbefore
    rw [if_neg (by simp [hcustom])] at hturn
    obtain ⟨id, rfl, hid⟩ := (htold.told d before after hbefore hcustom hafter).topics hX hG hJ
      hkeyed hbefore hturn (mem_sentTo.1 hm) htopic
    exact h.channel id hid
  · obtain ⟨before, hbefore, rfl | ⟨hcustom, hgiven⟩⟩ := heach.downstream_before hafter
    · exact hk.grows _ _ _ (h.group after hbefore job hjob)
    · obtain ⟨hid, -, new, hnewJob, hchannelId, hstore⟩ := hgiven.group hX hG hJ
      rw [hstore] at hjob
      rcases hjob.of_addTemplateJob with rfl | hold
      · -- The new job is announced, or the group is given it all the same.
        by_cases hannounced : before.requiresStandardJobs = false ∧
          X.groupChannelIds after.downstreamData.groupChannel ≠ []
        · have hmem := (htold.told d before after hbefore hcustom hafter).group hannounced.1
            hannounced.2 job hnewJob
          refine hnew _ _ hmem ?_
          rw [← hchannelId]
          exact List.mem_singleton.2 rfl
        · refine hquiet before after job hbefore hcustom hafter ?_ hnewJob
          by_cases hstd : before.requiresStandardJobs = true
          · exact .inl hstd
          · right
            by_contra hne
            exact hannounced ⟨by simpa using hstd, hne⟩
      · rw [hid]
        exact hk.grows _ _ _ (h.group before hbefore job hold)
  · obtain ⟨before, hbefore, rfl | ⟨hcustom, hgiven⟩⟩ := heach.downstream_before hafter
    · exact hk.grows _ _ _ (h.standard after hbefore hstd id c' hc' job hjob)
    · rw [hgiven.requiresStandardJobs] at hstd
      obtain ⟨c, new, hc, hnewJob, hchannelId, hstore⟩ := hgiven.standard hX hJ hstd hc'
      rw [hstore] at hjob
      rcases hjob.of_addTemplateJob with rfl | hold
      · obtain ⟨announced, hannounced, hmem⟩ :=
          (htold.told d before after hbefore hcustom hafter).standard hstd id c' hc'
        have hsame : announced = job := Option.some.inj (hannounced.symm.trans hnewJob)
        rw [hsame] at hmem
        rw [hkeyed d .standard id c (ManagerState.channel?_standard hbefore hc)] at hchannelId
        refine hnew _ _ hmem ?_
        rw [← hchannelId]
        exact List.mem_singleton.2 rfl
      · exact hk.grows _ _ _ (h.standard before hbefore hstd id c hc job hold)

section NewPrevHash

variable {message : SetNewPrevHash} {before after : Downstream X}

/-- The group of a connection keeps its id, and holds jobs with the ids of old ones. -/
theorem PrevHashSet.group_before (hX : X.Laws) (hG : X.GroupLaws)
    (h : PrevHashSet message before after) :
    X.groupChannelId after.downstreamData.groupChannel =
        X.groupChannelId before.downstreamData.groupChannel ∧
      X.groupChannelIds after.downstreamData.groupChannel =
        X.groupChannelIds before.downstreamData.groupChannel ∧
      ∀ job, (X.groupJobStore after.downstreamData.groupChannel).Holds job →
        ∃ old, (X.groupJobStore before.downstreamData.groupChannel).Holds old ∧
          Job.getJobId old = Job.getJobId job := by
  obtain ⟨hid, hids⟩ := hG.groupOnSetNewPrevHash _ _ _ h.group
  exact ⟨hid, hids, fun job hjob =>
    exists_holds_of_setsNewPrevHash hX (hX.groupOnSetNewPrevHash _ _ _ h.group) hjob⟩

/-- What a connection works on after a previous hash is known. -/
theorem Booked.worksOn (hX : X.Laws) (hG : X.GroupLaws) (hJ : X.JobLaws)
    (h : Booked known s d told) (hbefore : s.downstream? d = some before)
    (hset : PrevHashSet message before after) {id : ChannelId} {jobId : UInt32}
    (hworks : WorksOn after id jobId) :
    known told (.channel id) ∧ known told (.job id jobId) := by
  cases hworks with
  | group hne hjob =>
    obtain ⟨hid, hids, hheld⟩ := hset.group_before hX hG
    obtain ⟨old, hold, heq⟩ := hheld _ (.active hjob)
    rw [hids] at hne
    rw [hid, ← heq]
    exact ⟨h.channel _ (ManagerState.hasId_group hbefore hne), h.group before hbefore old hold⟩
  | @standard id c' job hstd hc' hjob =>
    have hafter : (after.downstreamData.channels .standard).lookup id = some c' := hc'
    obtain ⟨c, hc, -, hheld⟩ := hset.channel_before hX hJ hafter
    obtain ⟨old, hold, heq⟩ := hheld _ (.active hjob)
    rw [hset.requiresStandardJobs] at hstd
    rw [← heq]
    exact ⟨h.channel _ (ManagerState.hasId_standard hbefore hc),
      h.standard before hbefore hstd id c hc old hold⟩

end NewPrevHash

/-- **The step lemma of previous hashes**, which name jobs that are held. -/
theorem Booked.newPrevHash (hk : Knows known) (hX : X.Laws) (hG : X.GroupLaws) (hJ : X.JobLaws)
    (h : Booked known s d told) {message : SetNewPrevHash}
    (heach : EachDownstream (PrevHashSet message) s s')
    (htold : EachTold (fun d _ => PrevHashTold message d) s s' messages)
    (hprovided : Provided s s' messages) :
    Booked known s' d (told ++ sentTo d messages) := by
  refine ⟨?_, fun id hid => hk.grows _ _ _ (h.channel id (hprovided.hasId.1 hid)),
    fun after hafter job hjob => ?_, fun after hafter hstd id c' hc' job hjob => ?_⟩
  · refine h.toldBefore.append_known hk.grows fun m hm topic htopic => ?_
    obtain ⟨before, hbefore, hcustom⟩ := htold.registered d m (mem_sentTo.1 hm)
    obtain ⟨after, hafter, hset⟩ := heach.present d before hbefore
    rw [if_neg (by simp [hcustom])] at hset
    obtain ⟨id, jobId, heq, hworks⟩ :=
      htold.told d before after hbefore hcustom hafter m (mem_sentTo.1 hm)
    obtain ⟨hchannel, hjob⟩ := h.worksOn hX hG hJ hbefore hset hworks
    rw [(RouteMessageTo.downstream.inj heq).2] at htopic
    simp only [Mining.topics, List.mem_cons, List.not_mem_nil, or_false] at htopic
    rcases htopic with rfl | rfl
    · exact hchannel
    · exact hjob
  · obtain ⟨before, hbefore, rfl | ⟨-, hset⟩⟩ := heach.downstream_before hafter
    · exact hk.grows _ _ _ (h.group after hbefore job hjob)
    · obtain ⟨hid, -, hheld⟩ := hset.group_before hX hG
      obtain ⟨old, hold, heq⟩ := hheld job hjob
      rw [hid, ← heq]
      exact hk.grows _ _ _ (h.group before hbefore old hold)
  · obtain ⟨before, hbefore, rfl | ⟨-, hset⟩⟩ := heach.downstream_before hafter
    · exact hk.grows _ _ _ (h.standard after hbefore hstd id c' hc' job hjob)
    · rw [hset.requiresStandardJobs] at hstd
      have hstandard : (after.downstreamData.channels .standard).lookup id = some c' := hc'
      obtain ⟨c, hc, -, hheld⟩ := hset.channel_before hX hJ hstandard
      obtain ⟨old, hold, heq⟩ := hheld job hjob
      rw [← heq]
      exact hk.grows _ _ _ (h.standard before hbefore hstd id c hc old hold)

end Booked

/-! ## The steps of the server -/

namespace Server

/-- **Jobs that are not announced.**  A step gives the group of a connection a job of which
the connection is not told: the group comes with jobs when the connection is registered, and a
template is not announced for it while the connection requires standard jobs or the group has
no channel. -/
inductive Untold (s s' : Server X) (d : DownstreamId) : ServerAction X → Topic → Prop
  | registered {group : X.GroupChannel} {job : X.Job .extended} :
      s.accepting.lookup d = some group → (X.groupJobStore group).Holds job →
      Untold s s' d (.register d) (.job (X.groupChannelId group) (Job.getJobId job))
  | newTemplate {template : NewTemplate} {orders : MapOrders} {before after : Downstream X}
      {job : X.Job .extended} :
      s.manager.downstream? d = some before → before.requiresCustomWork = false →
      s'.manager.downstream? d = some after →
      before.requiresStandardJobs = true ∨
        X.groupChannelIds after.downstreamData.groupChannel = [] →
      (X.groupJobStore after.downstreamData.groupChannel).templateJob template = some job →
      Untold s s' d (.newTemplate template orders)
        (.job (X.groupChannelId after.downstreamData.groupChannel) (Job.getJobId job))

variable [Double F] {cfg : ManagerConfig F} {lib : AddressLib Addr} {s s' : Server X}
  {a : ServerAction X} {d : DownstreamId} {known : List (Mining X) → Topic → Prop}
  {told : List (Mining X)}

/-- Only its registration gives an accepted connection a record. -/
theorem register_of_next (hids : s.IdsInOrder) (h : next cfg lib s a = some s')
    (ha : a.isHandler = false) (haccepting : (s.accepting.lookup d).isSome)
    (hd : (s'.manager.downstream? d).isSome) : a = .register d := by
  have hnone := (hids.accepting d haccepting).1
  cases bookkeepingStep_of_next h ha with
  | @register d' group _ =>
    rw [silently, ManagerState.downstream?_registerDownstream] at hd
    split at hd
    · rename_i heq
      rw [heq]
    · rw [hnone] at hd
      cases hd
  | bootstrap _ | forward _ | managerClosesSessions _ | connectionClosesSessions _ | poll =>
    have hsome : (s.manager.downstream? d).isSome := hd
    rw [hnone] at hsome
    cases hsome
  | setupConnection _ =>
    rw [silently, ManagerState.downstream?_setFlags, Option.isSome_map, hnone] at hd
    cases hd
  | managerRemoves _ | connectionRemoves _ =>
    have hsome := isSome_downstream?_of_removeDownstream hd
    rw [hnone] at hsome
    cases hsome

/-- A step keeps the channels under their ids. -/
theorem keyed_of_next (hX : X.Laws) (hG : X.GroupLaws) (hJ : X.JobLaws)
    (hcovered : s.manager.Covered) (hkeyed : s.manager.Keyed) (h : next cfg lib s a = some s') :
    s'.manager.Keyed := by
  cases a with
  | handleMining now => exact hkeyed.inventory hJ (inventory_of_handleMining hG hcovered h)
  | newTemplate template orders =>
    obtain ⟨-, outcome, htemplate, hhandled⟩ := handled_newTemplate hX h
    exact hkeyed.each (htemplate.each _ hhandled.state) (fun _ _ hgiven => hgiven.absent)
      fun _ _ hgiven _ _ _ _ hc hc' => hgiven.channelId hJ hc hc'
  | setNewPrevHash message orders =>
    obtain ⟨-, outcome, hprev, hhandled⟩ := handled_setNewPrevHash h
    refine hkeyed.each (hprev.each _ hhandled.state) (fun _ _ hset => hset.absent)
      fun _ _ hset kind id c c' hc hc' => ?_
    obtain ⟨c'', hc'', hid, -⟩ := hset.channel_before hX hJ hc'
    rw [hid, Option.some.inj (hc''.symm.trans hc)]
  | _ =>
    have hbook := bookkeeping_of_next h rfl
    exact fun d kind id c hc => hkeyed d kind id c (hbook.channel_before hc).1

/-- **The step lemma of the server**, where what is known includes what is not announced. -/
theorem booked_of_next (hk : Knows known) (hX : X.Laws) (hG : X.GroupLaws) (hJ : X.JobLaws)
    (hids : s.IdsInOrder) (hidle : s.SetupIdle) (hcovered : s.manager.Covered)
    (haccepting : ∀ d group, s.accepting.lookup d = some group → X.groupChannelIds group = [])
    (hkeyed : s.manager.Keyed) (h : Booked known s.manager d told)
    (hs : next cfg lib s a = some s')
    (huntold : ∀ topic, Untold s s' d a topic → known (told ++ sentTo d s'.sent) topic) :
    Booked known s'.manager d (told ++ sentTo d s'.sent) := by
  cases ha : a.isHandler with
  | true =>
    cases a with
    | handleMining now =>
      refine h.inventory hk hX hJ (inventory_of_handleMining hG hcovered hs) fun after hafter => ?_
      obtain ⟨-, d', message, queue, outcome, -, hhandles, hhandled⟩ := handled_handleMining hX hs
      obtain ⟨before, hbefore, hsame, -⟩ :=
        (hhandles.changes _ hhandled.state).downstream_before hafter
      exact ⟨before, hbefore, hsame⟩
    | newTemplate template orders =>
      simp only [next] at hs
      split at hs
      · have hhandled := handled_of_afterHandler hs
        rw [hhandled.sent] at huntold ⊢
        refine h.newTemplate hk hX hG hJ hkeyed ((newTemplateHandled hX orders _).each _
          hhandled.state) (templateTold orders hhandled.state)
          (provided_handleNewTemplate hX hG orders hhandled.state) ?_
        exact fun before after job hbefore hcustom hafter hquiet hjob =>
          huntold _ (.newTemplate hbefore hcustom hafter hquiet hjob)
      · cases hs
    | setNewPrevHash message orders =>
      simp only [next] at hs
      split at hs
      · have hhandled := handled_of_afterHandler hs
        rw [hhandled.sent]
        exact h.newPrevHash hk hX hG hJ ((newPrevHashHandled orders _).each _ hhandled.state)
          (prevHashTold orders hhandled.state)
          (provided_handleSetNewPrevHash hG orders hhandled.state)
      · cases hs
    | _ => cases ha
  | false =>
    have hbook := bookkeeping_of_next hs ha
    have hnothing := sendsNothing_of_next hids haccepting hs ha
    rw [hnothing.sent, sentTo_nil, List.append_nil] at huntold ⊢
    refine ⟨h.toldBefore, fun id hid => h.channel id (hnothing.hasId d id hid),
      fun after hafter job hjob => ?_, fun after hafter hstd id c hc job hjob => ?_⟩
    · rcases hbook.downstream d after hafter with
        ⟨before, hbefore, hdata, -⟩ | ⟨group, hgroup, rfl⟩
      · rw [hdata] at hjob ⊢
        exact h.group before hbefore job hjob
      · have hregister : a = .register d :=
          register_of_next hids hs ha (by rw [hgroup]; rfl) (by rw [hafter]; rfl)
        rw [hregister] at huntold
        exact huntold _ (.registered hgroup hjob)
    · rcases hbook.downstream d after hafter with
        ⟨before, hbefore, hdata, hset | rfl⟩ | ⟨group, -, rfl⟩
      · -- The flags of a connection are set before it has channels.
        have hnone := (hidle d hset).1 .standard id
        rw [hdata] at hc
        rw [ManagerState.channel?_standard hbefore hc] at hnone
        cases hnone
      · exact h.standard after hbefore hstd id c hc job hjob
      · cases hc

end Server

/-! ## Runs -/

namespace PoolServer

variable [Double F] {cfg : ManagerConfig F} {lib : AddressLib Addr} {V : VardiffLib X}
  {s s' : PoolServer X} {a : PoolServerAction X}
  {ts : List (Transition (PoolServer X) (PoolServerAction X))} {d : DownstreamId}

omit [Double F] in
/-- **What a connection knows** after the messages that were put into its channel: what these
introduce, and the jobs that its group was given without being announced in the steps before,
all messages of which are among these. -/
def Known (V : VardiffLib X) (ts : List (Transition (PoolServer X) (PoolServerAction X)))
    (d : DownstreamId) (before : List (Mining X)) (topic : Topic) : Prop :=
  (∃ m ∈ before, topic ∈ m.introduced) ∨
    ∃ past t a, past ++ [t] <+: ts ∧ t.action = .server a ∧
      t.before.server.Untold t.after.server d a topic ∧
      messagesFor V d (past ++ [t]) <+: before

omit [Double F] in
theorem knows_known : Knows (Known V ts d) where
  grows before sent topic h := by
    rcases h with ⟨m, hm, htopic⟩ | ⟨past, t, a, hpast, haction, huntold, hsaid⟩
    · exact .inl ⟨m, List.mem_append_left _ hm, htopic⟩
    · exact .inr ⟨past, t, a, hpast, haction, huntold, hsaid.trans (List.prefix_append _ _)⟩
  said messages m topic hm htopic := .inl ⟨m, hm, htopic⟩

omit [Double F] in
/-- In a longer run no less is known. -/
theorem Known.append {before : List (Mining X)} {topic : Topic} (h : Known V ts d before topic)
    (more : List (Transition (PoolServer X) (PoolServerAction X))) :
    Known V (ts ++ more) d before topic := by
  rcases h with hsaid | ⟨past, t, a, hpast, haction, huntold, hsaid⟩
  · exact .inl hsaid
  · exact .inr ⟨past, t, a, hpast.trans (List.prefix_append _ _), haction, huntold, hsaid⟩

/-- What the manager said fits what the connections know. -/
structure Tells (V : VardiffLib X) (ts : List (Transition (PoolServer X) (PoolServerAction X)))
    (s : PoolServer X) : Prop where
  keyed : s.server.manager.Keyed
  setupIdle : s.server.SetupIdle
  booked : ∀ d, Booked (Known V ts d) s.server.manager d (messagesFor V d ts)

omit [Double F] in
theorem Started.tells (h : Started s) : Tells V [] s where
  keyed d kind id c hc := by
    rw [ManagerState.channel?, h.server.downstream?_eq_none] at hc
    cases hc
  setupIdle := h.server.setupIdle
  booked d := by
    have hnone := h.server.downstream?_eq_none d
    refine ⟨introduced_nil, fun id hid => ?_, fun downstream hd => ?_, fun downstream hd => ?_⟩
    · rcases hid with ⟨kind, hc⟩ | ⟨ids, hids, -⟩
      · rw [ManagerState.channel?, hnone] at hc
        cases hc
      · rw [ManagerState.groupIds?, hnone] at hids
        cases hids
    all_goals
      rw [hnone] at hd
      cases hd

/-- A step of the server. -/
theorem Tells.server (hX : X.Laws) (hG : X.GroupLaws) (hJ : X.JobLaws) (h : Tells V ts s)
    (hcon : Consistent s) {a : ServerAction X} {server : Server X}
    (hserver : s.server.next cfg lib a = some server) (hs' : s'.server = server) :
    Tells V (ts ++ [⟨s, .server a, s'⟩]) s' := by
  subst hs'
  refine ⟨Server.keyed_of_next hX hG hJ hcon.covered h.keyed hserver,
    h.setupIdle.next hX hcon.ids hserver, fun d => ?_⟩
  have hbooked := (h.booked d).imp fun before topic hknown =>
    Known.append hknown [⟨s, .server a, s'⟩]
  rw [messagesFor_append]
  refine Server.booked_of_next knows_known hX hG hJ hcon.ids h.setupIdle hcon.covered
    hcon.accepting h.keyed hbooked hserver fun topic huntold => .inr ?_
  refine ⟨ts, _, a, List.prefix_rfl, rfl, huntold, ?_⟩
  rw [messagesFor_append]
  exact List.prefix_rfl

omit [Double F] in
/-- The vardiff cycle. -/
theorem Tells.vardiffCycle (hX : X.Laws) (hJ : X.JobLaws) (h : Tells V ts s)
    {order : IterOrder (DownstreamId × ChannelId)}
    (hs' : s'.server = s.server.silently (runVardiff V order s.server.manager).1) :
    Tells V (ts ++ [⟨s, .runVardiff order, s'⟩]) s' := by
  have hsame := sameButChannels_runVardiff (V := V) order s.server.manager
  have hstep := inventory_runVardiff V order s.server.manager (fun _ => False) fun _ => False
  have hmanager : s'.server.manager = (runVardiff V order s.server.manager).1 := by
    rw [hs']
    rfl
  refine ⟨?_, ?_, fun d => ?_⟩
  · rw [hmanager]
    exact h.keyed.inventory hJ hstep
  · rw [hs']
    refine h.setupIdle.of_channel_before (fun _ hd => hd) (fun d _ kind id c hc => ?_)
      fun _ _ _ he => he
    refine Option.isSome_iff_exists.1 ?_
    rw [← (isSome_runVardiff (V := V) order s.server.manager d id).1 kind]
    exact Option.isSome_iff_exists.2 ⟨c, hc⟩
  · have hbooked := (h.booked d).imp fun before topic hknown =>
      Known.append hknown [⟨s, .runVardiff order, s'⟩]
    rw [messagesFor_append, hmanager]
    refine hbooked.inventory knows_known hX hJ hstep fun after hafter => ?_
    have hsettings := hsame.downstream d
    rw [hafter, Option.map_some, eq_comm, Option.map_eq_some_iff] at hsettings
    obtain ⟨before, hbefore, heq⟩ := hsettings
    simp only [Prod.mk.injEq] at heq
    obtain ⟨hstd, hcustom, hgroup, -⟩ := heq
    exact ⟨before, hbefore, hstd.symm, hcustom.symm, by rw [hgroup]⟩

omit [Double F] in
/-- A step in which the manager says nothing and the server stays as it is. -/
theorem Tells.moves (h : Tells V ts s) (hs' : s'.server = s.server)
    (hnothing : newMessages V ⟨s, a, s'⟩ = []) : Tells V (ts ++ [⟨s, a, s'⟩]) s' := by
  refine ⟨hs' ▸ h.keyed, hs' ▸ h.setupIdle, fun d => ?_⟩
  rw [messagesFor_append, hnothing, sentTo_nil, List.append_nil, hs']
  exact (h.booked d).imp fun before topic hknown => Known.append hknown [⟨s, a, s'⟩]

theorem tells_of_run (hX : X.Laws) (hG : X.GroupLaws) (hJ : X.JobLaws)
    (h : Run Started (Computes (next cfg lib V)) ts s) : Tells V ts s := by
  induction h with
  | start hstart => exact hstart.tells
  | @next ts s s' a hrun hs ih =>
    have hcon := consistent_of_run hX hG hrun
    cases a with
    | server a =>
      simp only [Computes, PoolServer.next] at hs
      split at hs
      · obtain ⟨server, hserver, rfl⟩ := Option.map_eq_some_iff.1 hs
        exact ih.server hX hG hJ hcon hserver (afterServer_spec (s := s) server a).1
      · cases hs
    | runVardiff order =>
      simp only [Computes, PoolServer.next] at hs
      split at hs
      · cases hs
        exact ih.vardiffCycle hX hJ rfl
      · cases hs
    | insertSender _ | closeReceiver _ | forward | removeSender _ | managerRemovesSender =>
      exact ih.moves (server_of_next hs (fun _ heq => by cases heq) fun _ heq => by cases heq) rfl

/-! ## Main result

A connection that requires standard jobs opens an extended channel.  The next template is not
announced to it, but the previous hash that activates the template's job names this job. -/

/-- A connection with standard jobs opens an extended channel before the tip moves. -/
def standardJobsOnly : List (PoolServerAction tableChannels) :=
  [.server .bootstrap, .insertSender 1, .server (.register 1),
    .server (.setupConnection 1 true false),
    .server (.forward 1 (.openExtendedMiningChannel
      ⟨1, aliceAddress, .num 1, (0 : ℕ), .ok [], .ok (0 : ℕ)⟩)),
    .server (.handleMining 0), .forward, .forward, .forward,
    .server (.newTemplate ⟨2, true, 5000000000⟩ default),
    .server (.setNewPrevHash ⟨2, 8, 1700000600, 0x207fffff⟩ default), .forward]

/-- What this connection is told. -/
def standardJobsTold : List (Mining tableChannels) :=
  ((tableAfter standardJobsOnly).downstreamSender.lookup 1).elim [] DownstreamChannel.messages

/-- **Told before.**  Whatever was put into the channel of a connection, each message names
only channels that a message before it opened, with their groups, and jobs that a message
before it announced for their channel, or that the group of the connection had been given by
then without being announced. -/
theorem toldBefore_of_run (hX : X.Laws) (hG : X.GroupLaws) (hJ : X.JobLaws)
    (h : Run Started (Computes (next cfg lib V)) ts s) (d : DownstreamId)
    (channel : DownstreamChannel X) (hd : s.downstreamSender.lookup d = some channel) :
    ∀ before m after, channel.messages = before ++ m :: after →
      ∀ topic ∈ m.topics, Known V ts d before topic := by
  obtain ⟨rest, hrest⟩ := (holds_of_run hX hG h).isPrefix d channel hd
  have hall := ((tells_of_run hX hG hJ h).booked d).toldBefore
  rw [← hrest] at hall
  exact hall.of_append

/-- The previous hash names the first job of the first channel after it is announced. -/
theorem toldBefore_of_run_table :
    Known tableVardiff (tableTrace aliceOpens) 1 (aliceChannel.messages.take 2) (.job 2 1) :=
  toldBefore_of_run tableChannels_laws tableChannels_groupLaws tableChannels_jobLaws
    (tableRun (s := tableAfter aliceOpens) aliceOpens rfl) 1 aliceChannel rfl _
    (.setNewPrevHash 2 1 7 1700000000 0x207fffff) (aliceChannel.messages.drop 3) rfl _
    (List.mem_cons_of_mem _ List.mem_cons_self)

-- A job of the group that no message announced.
example : (standardJobsTold.drop 3).map Mining.topics = [[.channel 1, .job 1 2]] ∧
    ∀ m ∈ standardJobsTold, Topic.job 1 2 ∉ m.introduced := by
  decide +kernel

end PoolServer

end CanaryMining
